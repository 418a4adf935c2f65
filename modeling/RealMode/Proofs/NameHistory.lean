import Mathlib.Data.List.Induction
import Mathlib.Data.List.Infix
import RealMode.Proofs.HandleTable
import RealMode.Proofs.KnownNames
import RealMode.Proofs.SpelledNames

/-!
# Names over time

The table of short names is only ever extended. A name that was asked for before its file came, and
the name of a file that has gone, stay in it and can keep a later file from its own name. As long as
no two files that have ever been in the directory share a short name and no name was asked for in
vain that one of them would need, every file has its name to itself and is opened by it.
-/

namespace RealMode.Dos

namespace NameTable

variable {files : String → Prop} {t : NameTable} {host other : String} {name : FileName}
  {hosts : List String}

/-- The pair leaves all these files their own short names. -/
def Fits (files : String → Prop) (host : String) (name : FileName) : Prop :=
  ∀ f, files f → (.ofHostName f none = name ↔ f = host)

/-- No two of the files have one short name. -/
def Different (files : String → Prop) : Prop :=
  ∀ f g, files f → files g → FileName.ofHostName f none = .ofHostName g none → f = g

/-- Every pair leaves the files their own names, and what is known one way is known the other
way. -/
structure Own (files : String → Prop) (t : NameTable) : Prop where
  fits : t.Holds (Fits files)
  mirrored : ∀ host name, (host, name) ∈ t.shortNames ↔ (name, host) ∈ t.hostNames

theorem Different.fits (different : Different files) (file : files host) :
    Fits files host (.ofHostName host none) := by
  intro f seen
  constructor
  · exact different f host seen file
  · rintro rfl
    rfl

theorem own_empty : Own files empty where
  fits := holds_empty
  mirrored _ _ :=
    ⟨fun none => absurd none List.not_mem_nil, fun none => absurd none List.not_mem_nil⟩

theorem Own.enter (own : t.Own files) (fits : Fits files host name) :
    (t.enter host name).Own files where
  fits := own.fits.enter fits
  mirrored other name' := by
    rw [NameTable.enter, List.mem_cons, List.mem_cons, own.mirrored, Prod.mk.injEq,
      Prod.mk.injEq, and_comm]

/-- A file whose short name is known is what the name stands for. -/
theorem Own.hostName?_of_known (own : t.Own files) (file : files host)
    (known : (.ofHostName host none, other) ∈ t.hostNames) :
    t.hostName? (.ofHostName host none) = some host := by
  cases looked : t.hostName? (.ofHostName host none) with
  | none =>
    have unknown := List.lookup_eq_none_iff.1 looked _ known
    rw [bne_self_eq_false] at unknown
    cases unknown
  | some found => rw [(own.fits.of_hostName? looked host file).1 rfl]

theorem Own.hostName?_of_unlisted (own : t.Own files) (file : files host)
    (unknown : t.shortName? host = none) :
    t.hostName? (.ofHostName host none) = none := by
  cases looked : t.hostName? (.ofHostName host none) with
  | none => rfl
  | some found =>
    have same := (own.fits.of_hostName? looked host file).1 rfl
    have pair := (own.mirrored found _).2 (mem_of_lookup looked)
    have missing := List.lookup_eq_none_iff.1 unknown _ pair
    rw [same, bne_self_eq_false] at missing
    cases missing

theorem Own.assign (own : t.Own files) (different : Different files) (file : files host) :
    (t.assign host).1 = .ofHostName host none ∧ (t.assign host).2.Own files ∧
      (.ofHostName host none, host) ∈ (t.assign host).2.hostNames ∧
        t.hostNames ⊆ (t.assign host).2.hostNames := by
  rw [NameTable.assign]
  cases known : t.shortName? host with
  | some name =>
    have same : .ofHostName host none = name := (own.fits.of_shortName? known host file).2 rfl
    have pair : (name, host) ∈ t.hostNames := (own.mirrored host name).1 (mem_of_lookup known)
    dsimp only
    rw [same]
    exact ⟨rfl, own, pair, List.Subset.refl _⟩
  | none =>
    have free : t.hostName? (candidate host 0) = none := own.hostName?_of_unlisted file known
    have first : t.firstFree host 0 (t.hostNames.length + 1) = .ofHostName host none := by
      rw [firstFree, free]
      rfl
    dsimp only
    rw [first]
    exact ⟨rfl, own.enter (different.fits file), List.mem_cons_self, List.subset_cons_self _ _⟩

/-- After a look at a listing, its files have their own names. -/
theorem Own.list (own : t.Own files) (different : Different files)
    (all : ∀ host ∈ hosts, files host) :
    (t.list hosts).1 = hosts.map (.ofHostName · none) ∧ (t.list hosts).2.Own files ∧
      t.hostNames ⊆ (t.list hosts).2.hostNames ∧
      ∀ host ∈ hosts, (.ofHostName host none, host) ∈ (t.list hosts).2.hostNames := by
  induction hosts generalizing t with
  | nil => exact ⟨rfl, own, List.Subset.refl _, fun _ none => absurd none List.not_mem_nil⟩
  | cons host hosts ih =>
    obtain ⟨name, own', pair, more⟩ := own.assign different (all host List.mem_cons_self)
    obtain ⟨names, own'', more', pairs⟩ :=
      ih own' fun other inside => all other (List.mem_cons_of_mem _ inside)
    rw [NameTable.list]
    dsimp only
    refine ⟨by rw [name, names, List.map_cons], own'', List.Subset.trans more more', ?_⟩
    intro other inside
    rcases List.mem_cons.1 inside with rfl | inside
    · exact more' pair
    · exact pairs other inside

theorem Own.resolve (own : t.Own files) (different : Different files)
    (all : ∀ host ∈ hosts, files host)
    (fits : (∀ host, (name, host) ∉ (t.list hosts).2.hostNames) →
      Fits files (Text.Utf8.decodeLossy name.toBytes) name) :
    (t.resolve hosts name).2.Own files ∧ t.hostNames ⊆ (t.resolve hosts name).2.hostNames := by
  obtain ⟨_, own', more, _⟩ := own.list different all
  rw [NameTable.resolve]
  dsimp only
  cases looked : (t.list hosts).2.hostName? name with
  | some host => exact ⟨own', more⟩
  | none =>
    have unknown : ∀ host, (name, host) ∉ (t.list hosts).2.hostNames := by
      intro host pair
      have other := List.lookup_eq_none_iff.1 looked _ pair
      rw [bne_self_eq_false] at other
      cases other
    exact ⟨own'.enter (fits unknown), List.Subset.trans more (List.subset_cons_self _ _)⟩

/-- The name of a listed file is resolved to the file. -/
theorem Own.resolve_listed (own : t.Own files) (different : Different files)
    (all : ∀ host ∈ hosts, files host) (listed : host ∈ hosts) :
    (t.resolve hosts (.ofHostName host none)).1 = host := by
  obtain ⟨_, own', _, pairs⟩ := own.list different all
  have known := own'.hostName?_of_known (all host listed) (pairs host listed)
  rw [NameTable.resolve]
  dsimp only
  rw [known]

end NameTable

namespace FileSystem

open NameTable (Different Fits Own)

variable {fs fs' : FileSystem} {events : List FileEvent} {host : String} {files : String → Prop}

/-- A file that has been in the directory at some time, or is there now. -/
def Seen (fs : FileSystem) (events : List FileEvent) (host : String) : Prop :=
  ∃ before, before <+: events ∧ host ∈ (fs.run before).listing

/-- A program has asked for the name while no file in the directory had it. -/
def AskedInVain (fs : FileSystem) (events : List FileEvent) (name : FileName) : Prop :=
  ∃ before op bytes, before ++ [.operation op] <+: events ∧ op.asksFor = some bytes ∧
    name = .parse bytes ∧
    ∀ host ∈ (fs.run before).listing, .ofHostName host none ≠ name

/-- Nothing has happened that could keep a file from its short name. -/
structure Undisturbed (fs : FileSystem) (events : List FileEvent) : Prop where
  different : Different (fs.Seen events)
  vain : ∀ name, fs.AskedInVain events name →
    Fits (fs.Seen events) (Text.Utf8.decodeLossy name.toBytes) name

/-- The table leaves the files their own names, and knows all that a search has still to show. -/
structure Faithful (files : String → Prop) (fs : FileSystem) : Prop where
  names : fs.names.Own files
  shown : ∀ name ∈ fs.found, ∃ host, (name, host) ∈ fs.names.hostNames

theorem Faithful.knowing (faithful : Faithful files fs) (different : Different files)
    (listed : ∀ host ∈ fs.listing, files host) {name : FileName}
    (fits : (∀ host, (name, host) ∉ (fs.names.list fs.listing).2.hostNames) →
      Fits files (Text.Utf8.decodeLossy name.toBytes) name) : Faithful files (fs.knowing name) := by
  obtain ⟨own, more⟩ := faithful.names.resolve different listed fits
  refine ⟨own, fun shown inside => ?_⟩
  obtain ⟨host, pair⟩ := faithful.shown shown inside
  exact ⟨host, more pair⟩

/-- The names that a search shows are known from its listing on. -/
theorem Faithful.search (faithful : Faithful files fs) (different : Different files)
    (listed : ∀ host ∈ fs.listing, files host) (pattern : List UInt8) :
    Faithful files (fs.search pattern) := by
  obtain ⟨names, own, _, pairs⟩ := faithful.names.list different listed
  rw [search_eq]
  refine ⟨own, fun name inside => ?_⟩
  have all := (List.mem_filter.1 inside).1
  rw [names] at all
  obtain ⟨host, there, rfl⟩ := List.mem_map.1 all
  exact ⟨host, pairs host there⟩

theorem Faithful.step {op : FileOperation} (faithful : Faithful files fs)
    (different : Different files) (listed : ∀ host ∈ fs.listing, files host)
    (vain : ∀ bytes, op.asksFor = some bytes →
      (∀ host ∈ fs.listing, .ofHostName host none ≠ FileName.parse bytes) →
      Fits files (Text.Utf8.decodeLossy (FileName.parse bytes).toBytes) (.parse bytes))
    (step : Step fs op fs') : Faithful files fs' := by
  have pairs := (faithful.names.list different listed).2.2
  rcases step.names with same | ⟨bytes, asked, same⟩ | ⟨pattern, rfl⟩ |
    ⟨name, rest, shown, rfl⟩
  · constructor
    · rw [same.names]
      exact faithful.names
    · rw [same.names, same.found]
      exact faithful.shown
  · have known : Faithful files (fs.knowing (.parse bytes)) := by
      refine faithful.knowing different listed fun unknown => ?_
      refine vain bytes asked fun host there short => ?_
      have pair := pairs.2 host there
      rw [short] at pair
      exact unknown host pair
    constructor
    · rw [same.names]
      exact known.names
    · rw [same.names, same.found]
      exact known.shown
  · exact faithful.search different listed pattern
  · obtain ⟨host, pair⟩ := faithful.shown name (shown ▸ List.mem_cons_self)
    have known :=
      faithful.knowing different listed fun unknown => absurd (pairs.1 pair) (unknown host)
    exact ⟨known.names,
      fun other inside => known.shown other (shown ▸ List.mem_cons_of_mem _ inside)⟩

/-- At every point of an undisturbed history, the table leaves the files their own names. -/
theorem faithful_run {disk : Disk} {here : Path} {root : String}
    (undisturbed : (mount disk here root).Undisturbed events) {before : List FileEvent}
    (part : before <+: events) :
    Faithful ((mount disk here root).Seen events) ((mount disk here root).run before) := by
  have listed {before : List FileEvent} (part : before <+: events) :
      ∀ host ∈ ((mount disk here root).run before).listing,
        (mount disk here root).Seen events host :=
    fun host there => ⟨before, part, there⟩
  induction before using List.reverseRecOn with
  | nil =>
    have fresh :
        Faithful ((mount disk here root).Seen events) ⟨disk, here, root, .empty, [], []⟩ :=
      ⟨NameTable.own_empty, fun _ none => absurd none List.not_mem_nil⟩
    have initial := listed List.nil_prefix
    rw [run, List.foldl_nil, mount, refresh_eq] at initial ⊢
    exact ⟨(fresh.names.list undisturbed.different initial).2.1,
      fun _ none => absurd none List.not_mem_nil⟩
  | append_singleton before event ih =>
    have earlier := (List.prefix_append before [event]).trans part
    have faithful := ih earlier
    rw [run_concat]
    cases event with
    | operation op =>
      refine faithful.step undisturbed.different (listed earlier) ?_ (step_perform op _)
      intro bytes asked missing
      exact undisturbed.vain _ ⟨before, op, bytes, part, asked, rfl, missing⟩
    | host disk => exact ⟨faithful.names, faithful.shown⟩

/-- Where a name leads to a file and there is a handle for it, the file is opened. -/
theorem exists_handle_of_target {name : List UInt8} {number : Nat}
    (found : fs.target name = .ok (.file number)) (free : freeSlot fs.slots ≠ none)
    (mode : AccessMode) :
    ∃ handle, (fs.openFile name mode).1 = .ok handle ∧
      (fs.openFile name mode).2.openFile? handle = some ⟨some number, mode, 0⟩ := by
  have added : fs.openFile name mode =
      (fs.knowing (.parse name)).addHandle ⟨some number, mode, 0⟩ := by
    unfold openFile
    rw [hostName_eq]
    dsimp only
    rw [find_knowing, found]
  rw [added]
  rcases addHandle_cases (fs.knowing (.parse name)) ⟨some number, mode, 0⟩ with full |
    ⟨slot, taken, given⟩
  · obtain ⟨slot, free⟩ := Option.ne_none_iff_exists'.1 free
    have same : (fs.knowing (.parse name)).slots = fs.slots := rfl
    rw [addHandle, same, free] at full
    cases full
  · rw [given]
    refine ⟨handleOf slot, rfl, ?_⟩
    rw [openFile?_withSlot taken rfl, if_pos rfl]

/-- After an undisturbed history, a file in the directory is opened by its short name if that is an
ordinary one, however it is spelled and whatever stands in front of it. -/
theorem current_file_opens {disk : Disk} {here : Path} {root : String}
    (undisturbed : (mount disk here root).Undisturbed events) {number : Nat}
    {front bytes : List UInt8} (listed : host ∈ ((mount disk here root).run events).listing)
    (leads : ((mount disk here root).run events).find host = .ok (.file number))
    (ordinary : (FileName.ofHostName host none).Ordinary)
    (spelled : bytes.map FileName.capital = (FileName.ofHostName host none).toBytes)
    (ends : FileName.IsFront front)
    (free : freeSlot ((mount disk here root).run events).slots ≠ none) (mode : AccessMode) :
    ∃ handle,
      (((mount disk here root).run events).openFile (front ++ bytes) mode).1 = .ok handle ∧
      (((mount disk here root).run events).openFile (front ++ bytes) mode).2.openFile? handle =
        some ⟨some number, mode, 0⟩ := by
  have faithful := faithful_run undisturbed List.prefix_rfl
  have seen : ∀ other ∈ ((mount disk here root).run events).listing,
      (mount disk here root).Seen events other :=
    fun other there => ⟨events, List.prefix_rfl, there⟩
  have resolved : ((mount disk here root).run events).hostOf (.parse (front ++ bytes)) = host := by
    rw [ordinary.parse_eq spelled ends]
    exact faithful.names.resolve_listed undisturbed.different seen listed
  have found : ((mount disk here root).run events).target (front ++ bytes) =
      .ok (.file number) := by
    rw [target, resolved]
    exact leads
  exact exists_handle_of_target found free mode

section Welcome

open Text.Utf8 (encode)

/-- A root directory with nothing in it. -/
def bare : Disk := Disk.empty.addDirectories ["r"]

def noting : Disk := bare.put ["r", "Notes.Txt"] []

def welcoming : Disk := bare.put ["r", "Welcome.Ans"] [0x68, 0x69]

def missingName : List UInt8 := encode "MISSING.DAT"

/-- A program looks for a file that never comes, and the host puts one file in
the place of another. -/
def quietEvents : List FileEvent := [.operation (.openFile missingName .readOnly), .host welcoming]

theorem prefix_quietEvents {before : List FileEvent} (part : before <+: quietEvents) :
    before = [] ∨ before = quietEvents.take 1 ∨ before = quietEvents := by
  rcases List.prefix_cons_iff.1 part with none | ⟨rest, rfl, part'⟩
  · exact .inl none
  rcases List.prefix_cons_iff.1 part' with rfl | ⟨rest', rfl, part''⟩
  · exact .inr (.inl rfl)
  · rw [List.prefix_nil.1 part'']
    exact .inr (.inr rfl)

theorem seen_quietEvents (seen : (mount noting [] "/r").Seen quietEvents host) :
    host ∈ ["Notes.Txt", "Welcome.Ans"] := by
  obtain ⟨before, part, there⟩ := seen
  rcases prefix_quietEvents part with rfl | rfl | rfl
  · have listing : ((mount noting [] "/r").run []).listing = ["Notes.Txt"] := by decide +kernel
    rw [listing] at there
    exact List.mem_append_left _ there
  · have listing : ((mount noting [] "/r").run (quietEvents.take 1)).listing = ["Notes.Txt"] := by
      decide +kernel
    rw [listing] at there
    exact List.mem_append_left _ there
  · have listing : ((mount noting [] "/r").run quietEvents).listing = ["Welcome.Ans"] := by
      decide +kernel
    rw [listing] at there
    exact List.mem_cons_of_mem _ there

theorem asked_quietEvents {name : FileName}
    (asked : (mount noting [] "/r").AskedInVain quietEvents name) :
    name = .parse missingName := by
  obtain ⟨before, op, bytes, part, asks, rfl, _⟩ := asked
  rcases prefix_quietEvents part with none | first | both
  · cases List.append_ne_nil_of_right_ne_nil before (List.cons_ne_nil _ _) none
  · cases List.getLast?_concat.symm.trans (congrArg List.getLast? first)
    cases asks
    rfl
  · cases List.getLast?_concat.symm.trans (congrArg List.getLast? both)

theorem undisturbed_quietEvents : (mount noting [] "/r").Undisturbed quietEvents where
  different f g seen seen' := by
    have all : ∀ f ∈ ["Notes.Txt", "Welcome.Ans"], ∀ g ∈ ["Notes.Txt", "Welcome.Ans"],
        FileName.ofHostName f none = .ofHostName g none → f = g := by decide +kernel
    exact all f (seen_quietEvents seen) g (seen_quietEvents seen')
  vain name asked f seen := by
    have all : ∀ f ∈ ["Notes.Txt", "Welcome.Ans"],
        (FileName.ofHostName f none = .parse missingName ↔
          f = Text.Utf8.decodeLossy (FileName.parse missingName).toBytes) := by decide +kernel
    rw [asked_quietEvents asked]
    exact all f (seen_quietEvents seen)

def spelledName : List UInt8 := encode "c:\\bbs\\" ++ encode "welcome.ans"

theorem welcome_opens :
    ∃ handle,
      (((mount noting [] "/r").run quietEvents).openFile spelledName .readOnly).1 = .ok handle ∧
      (((mount noting [] "/r").run quietEvents).openFile spelledName .readOnly).2.openFile? handle =
        some ⟨some 0, .readOnly, 0⟩ := by
  have listed : "Welcome.Ans" ∈ ((mount noting [] "/r").run quietEvents).listing := by
    decide +kernel
  have leads : ((mount noting [] "/r").run quietEvents).find "Welcome.Ans" = .ok (.file 0) := by
    decide +kernel
  have spelled : (encode "welcome.ans").map FileName.capital =
      (FileName.ofHostName "Welcome.Ans" none).toBytes := by
    decide +kernel
  have ends : FileName.IsFront (encode "c:\\bbs\\") := by decide +kernel
  exact current_file_opens undisturbed_quietEvents listed leads (by decide +kernel) spelled ends
    (by decide +kernel)
    .readOnly

/-- A program looks for a file before the host adds it. -/
def hastyEvents : List FileEvent :=
  [.operation (.openFile (encode "WELCOME.ANS") .readOnly), .host welcoming]

/-- The only file of the directory has an ordinary short name, and is not found by it. -/
theorem hasty_lookup_hides_file :
    ((mount bare [] "/r").run hastyEvents).listing = ["Welcome.Ans"] ∧
      ((mount bare [] "/r").run hastyEvents).find "Welcome.Ans" = .ok (.file 0) ∧
      (FileName.ofHostName "Welcome.Ans" none).Ordinary ∧
      (FileName.ofHostName "Welcome.Ans" none).toBytes = encode "WELCOME.ANS" ∧
      freeSlot ((mount bare [] "/r").run hastyEvents).slots = some 0 ∧
      (((mount bare [] "/r").run hastyEvents).openFile (encode "WELCOME.ANS") .readOnly).1 =
        .error .fileNotFound := by
  decide +kernel

end Welcome

end FileSystem

end RealMode.Dos
