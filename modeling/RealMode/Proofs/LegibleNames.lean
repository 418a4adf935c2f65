import Mathlib.Data.List.Induction
import RealMode.Proofs.FreshNames
import RealMode.Proofs.LossyText

/-!
# Names that are read as they are written

A short name is handed out as bytes and read again when a program asks for it. The title may hold
dots, and both parts may hold what ends a path or a drive; not all names survive that. A host file's
short name does just when it holds no such separator, and its title no dot unless an extension
follows. A name that does not survive never turns into the name of its own host file.
-/

namespace RealMode.Dos.FileName

open Text.Utf8 (Ascii charOf decodeLossy)

section Parts

variable {α : Type}

/-- There is no place to split, or the last one is found. -/
theorem splitLast_cases (p : α → Bool) (xs : List α) :
    (∀ y ∈ xs, p y = false) ∧ splitLast p xs = none ∨
      ∃ before x after, xs = before ++ x :: after ∧ p x = true ∧
        (∀ y ∈ after, p y = false) ∧
        splitLast p xs = some (before, after) := by
  induction xs using List.reverseRecOn with
  | nil => exact .inl ⟨fun _ none => absurd none List.not_mem_nil, rfl⟩
  | append_singleton xs y ih =>
    by_cases here : p y = true
    · have nothing : ∀ z ∈ ([] : List α), p z = false :=
        fun _ none => absurd none List.not_mem_nil
      exact .inr ⟨xs, y, [], rfl, here, nothing, splitLast_append here nothing⟩
    · have notHere : p y = false := Bool.eq_false_iff.2 here
      rcases ih with ⟨nowhere, _⟩ | ⟨before, x, after, rfl, there, last, _⟩
      · have none : ∀ z ∈ xs ++ [y], p z = false := by
          intro z inside
          rcases List.mem_append.1 inside with old | new
          · exact nowhere z old
          · rw [List.mem_singleton.1 new]
            exact notHere
        exact .inl ⟨none, splitLast_eq_none none⟩
      · have last' : ∀ z ∈ after ++ [y], p z = false := by
          intro z inside
          rcases List.mem_append.1 inside with old | new
          · exact last z old
          · rw [List.mem_singleton.1 new]
            exact notHere
        have parts : before ++ x :: after ++ [y] = before ++ x :: (after ++ [y]) := by simp
        refine .inr ⟨before, x, after ++ [y], parts, there, last', ?_⟩
        rw [parts]
        exact splitLast_append there last'

variable {name : List UInt8}

/-- A name has no dot and no extension, or its last dot ends the title. -/
theorem splitExtension_cases (name : List UInt8) :
    dot ∉ name ∧ splitExtension name = (name, none) ∨
      ∃ title tail, name = title ++ dot :: tail ∧ dot ∉ tail ∧
        splitExtension name = (title, some (tail.take 3)) := by
  rw [splitExtension]
  rcases splitLast_cases (· == dot) name with ⟨nowhere, same⟩ |
    ⟨title, x, tail, rfl, here, last, same⟩
  · rw [same]
    refine .inl ⟨fun inside => ?_, rfl⟩
    have absent := nowhere dot inside
    rw [beq_self_eq_true] at absent
    cases absent
  · rw [same, beq_iff_eq.1 here]
    refine .inr ⟨title, tail, rfl, fun inside => ?_, rfl⟩
    have absent := last dot inside
    rw [beq_self_eq_true] at absent
    cases absent

theorem splitExtension_eq_of_dot {title tail : List UInt8} (undotted : dot ∉ tail) :
    splitExtension (title ++ dot :: tail) = (title, some (tail.take 3)) := by
  have last : ∀ b ∈ tail, (b == dot) = false := by
    intro b inside
    rw [beq_eq_false_iff_ne]
    rintro rfl
    exact undotted inside
  rw [splitExtension, splitLast_append (p := fun b => b == dot) (beq_self_eq_true dot) last]

theorem splitExtension_eq_of_not_dot (undotted : dot ∉ name) :
    splitExtension name = (name, none) := by
  rcases splitExtension_cases name with ⟨_, same⟩ | ⟨title, tail, rfl, _⟩
  · exact same
  · exact absurd (List.mem_append_right _ List.mem_cons_self) undotted

/-- What ends a drive or a path. -/
def Separator (b : UInt8) : Prop := b = backslash ∨ b = colon

theorem not_separator_of_mem_withoutPath {b : UInt8} (inside : b ∈ withoutPath name) :
    ¬ Separator b := by
  rw [withoutPath] at inside
  intro separates
  have holds : (b == backslash || b == colon) = true := by
    rw [Bool.or_eq_true, beq_iff_eq, beq_iff_eq]
    exact separates
  rcases splitLast_cases (fun b => b == backslash || b == colon) name with
    ⟨nowhere, same⟩ | ⟨before, x, after, _, _, last, same⟩
  · rw [same] at inside
    have absent := nowhere b inside
    rw [holds] at absent
    cases absent
  · rw [same] at inside
    have absent := last b inside
    rw [holds] at absent
    cases absent

theorem mem_of_mem_withoutPath {b : UInt8} (inside : b ∈ withoutPath name) : b ∈ name := by
  rw [withoutPath] at inside
  rcases splitLast_cases (fun b => b == backslash || b == colon) name with
    ⟨_, same⟩ | ⟨before, x, after, parts, _, _, same⟩
  · rwa [same] at inside
  · rw [same] at inside
    rw [parts]
    exact List.mem_append_right _ (List.mem_cons_of_mem _ inside)

theorem withoutPath_eq (clear : ∀ b ∈ name, ¬ Separator b) : withoutPath name = name := by
  have plain : ∀ b ∈ name, b ≠ backslash ∧ b ≠ colon := by
    intro b inside
    exact not_or.1 (clear b inside)
  exact withoutPath_append (.inl rfl) plain

end Parts

section Issued

variable {n : FileName} {host : String} {index : Option Nat}

/-- A byte that a host file's short name can hold. -/
def Settled (b : UInt8) : Prop := Ascii b ∧ capital b = b

theorem capital_capital (b : UInt8) : capital (capital b) = capital b := by
  unfold capital
  grind

theorem ascii_capital {b : UInt8} (ascii : Ascii b) : Ascii (capital b) := by
  have low : b < 0x80 := UInt8.lt_iff_toNat_lt.2 ascii
  have kept : capital b < 0x80 := by
    unfold capital
    grind
  exact UInt8.lt_iff_toNat_lt.1 kept

theorem settled_hostByte (c : Char) : Settled (hostByte c) := by
  rw [hostByte]
  split
  · next small =>
    have ascii : Ascii (UInt8.ofNat c.toNat) := by
      rw [Ascii, UInt8.toNat_ofNat', Nat.mod_eq_of_lt (by omega)]
      exact small
    exact ⟨ascii_capital ascii, capital_capital _⟩
  · exact ⟨by decide, by decide⟩

theorem settled_of_mem_suffix {b : UInt8} (inside : b ∈ suffix index) :
    Settled b ∧ b ≠ dot ∧ ¬ Separator b := by
  cases index with
  | none => cases inside
  | some k =>
    rw [suffix_some] at inside
    rcases List.mem_cons.1 inside with rfl | number
    · refine ⟨⟨by decide, by decide⟩, by decide, ?_⟩
      rintro (same | same) <;> cases same
    · obtain ⟨c, digit, rfl⟩ := List.mem_map.1 number
      obtain ⟨low, high⟩ := digit_bounds digit
      have value := toNat_digit digit
      generalize UInt8.ofNat c.toNat = b at value
      have small : b < 0x3a := by
        rw [UInt8.lt_iff_toNat_lt, value]
        exact Nat.lt_succ_of_le high
      have large : 0x2f < b := by
        rw [UInt8.lt_iff_toNat_lt, value]
        exact low
      have settled : capital b = b := by
        unfold capital
        grind
      have ascii : Ascii b := UInt8.lt_iff_toNat_lt.1 (show b < 0x80 by grind)
      refine ⟨⟨ascii, settled⟩, ?_, ?_⟩
      · rintro rfl
        exact absurd large (by decide)
      · rintro (rfl | rfl)
        · exact absurd small (by decide)
        · exact absurd small (by decide)

/-- What every short name of a host file is like. -/
structure Issued (n : FileName) : Prop where
  short : n.extension.length ≤ 3
  undotted : dot ∉ n.extension
  settled : ∀ b ∈ n.title ++ n.extension, Settled b

/-- The bytes of a host name, from which its short names are made. -/
def image (host : String) : List UInt8 := host.toList.map hostByte

theorem settled_of_mem_image {b : UInt8} (inside : b ∈ image host) : Settled b := by
  obtain ⟨c, _, rfl⟩ := List.mem_map.1 inside
  exact settled_hostByte c

/-- The title and the extension of a short name are cut out of the image, and the number is
put behind the title. -/
theorem ofHostName_cases (host : String) (index : Option Nat) :
    dot ∉ image host ∧
        ofHostName host index =
          ⟨(image host).take (8 - (suffix index).length) ++ suffix index, []⟩ ∨
      ∃ title tail, image host = title ++ dot :: tail ∧ dot ∉ tail ∧
        ofHostName host index =
          ⟨title.take (8 - (suffix index).length) ++ suffix index, tail.take 3⟩ := by
  rcases splitExtension_cases (image host) with ⟨undotted, same⟩ |
    ⟨title, tail, parts, undotted, same⟩
  · refine .inl ⟨undotted, ?_⟩
    rw [image] at same
    rw [ofHostName, same]
    rfl
  · refine .inr ⟨title, tail, parts, undotted, ?_⟩
    rw [image] at same
    rw [ofHostName, same]
    rfl

theorem issued_ofHostName (host : String) (index : Option Nat) :
    (ofHostName host index).Issued := by
  have ending : ∀ b ∈ suffix index, Settled b :=
    fun b inside => (settled_of_mem_suffix inside).1
  rcases ofHostName_cases host index with ⟨_, same⟩ | ⟨title, tail, parts, undotted, same⟩
  · rw [same]
    refine ⟨Nat.zero_le _, List.not_mem_nil, fun b inside => ?_⟩
    rw [List.append_nil] at inside
    rcases List.mem_append.1 inside with cut | number
    · exact settled_of_mem_image (List.mem_of_mem_take cut)
    · exact ending b number
  · rw [same]
    refine ⟨List.length_take_le _ _, fun inside => undotted (List.mem_of_mem_take inside),
      fun b inside => ?_⟩
    have whole (here : b ∈ title ∨ b ∈ tail) : Settled b := by
      have inside : b ∈ image host := by
        rw [parts, List.mem_append, List.mem_cons]
        exact here.imp_right .inr
      exact settled_of_mem_image inside
    rcases List.mem_append.1 inside with front | cut
    · rcases List.mem_append.1 front with cut | number
      · exact whole (.inl (List.mem_of_mem_take cut))
      · exact ending b number
    · exact whole (.inr (List.mem_of_mem_take cut))

theorem Issued.map_capital {bytes : List UInt8} (settled : ∀ b ∈ bytes, Settled b) :
    bytes.map capital = bytes :=
  (List.map_congr_left fun b inside => (settled b inside).2).trans (List.map_id _)

end Issued

section Legible

variable {n n' : FileName} {host : String} {index : Option Nat}

/-- A name that is the same once it has been written out and read again. -/
structure Legible (n : FileName) : Prop where
  clear : ∀ b ∈ n.title ++ n.extension, ¬ Separator b
  title : n.extension = [] → dot ∉ n.title

instance (b : UInt8) : Decidable (Separator b) :=
  inferInstanceAs (Decidable (b = backslash ∨ b = colon))

instance (n : FileName) : Decidable n.Legible :=
  have : Decidable (∀ b ∈ n.title ++ n.extension, ¬ Separator b) := List.decidableBAll _ _
  decidable_of_iff ((∀ b ∈ n.title ++ n.extension, ¬ Separator b) ∧
    (n.extension = [] → dot ∉ n.title))
    ⟨fun ⟨clear, title⟩ => ⟨clear, title⟩, fun ⟨clear, title⟩ => ⟨clear, title⟩⟩

theorem toBytes_of_bare (bare : n.extension = []) : n.toBytes = n.title := by
  rw [toBytes, bare]
  rfl

theorem toBytes_of_extension (extended : n.extension ≠ []) :
    n.toBytes = n.title ++ dot :: n.extension := by
  rw [toBytes, if_neg fun none => extended (List.isEmpty_iff.1 none)]

theorem settled_toBytes (settled : ∀ b ∈ n.title ++ n.extension, Settled b) :
    ∀ b ∈ n.toBytes, Settled b := by
  intro b inside
  rcases mem_toBytes inside with part | rfl
  · exact settled b part
  · exact ⟨by decide, by decide⟩

theorem not_separator_capital {b : UInt8} (clear : ¬ Separator b) : ¬ Separator (capital b) := by
  rintro (same | same)
  · exact clear (.inl ((capital_eq_iff (by decide) (by decide)).1 same))
  · exact clear (.inr ((capital_eq_iff (by decide) (by decide)).1 same))

/-- What is read from a name comes from its bytes behind the path. -/
theorem mem_of_mem_parse {name : List UInt8} {b : UInt8}
    (inside : b ∈ (parse name).title ++ (parse name).extension) :
    ∃ a ∈ withoutPath name, capital a = b := by
  unfold parse at inside
  rcases splitExtension_cases (withoutPath name) with ⟨_, same⟩ |
    ⟨title, tail, parts, _, same⟩
  · rw [same] at inside
    simp only [Option.getD_none, List.map_nil, List.append_nil] at inside
    exact List.mem_map.1 inside
  · rw [same] at inside
    simp only [Option.getD_some] at inside
    rw [parts]
    rcases List.mem_append.1 inside with front | behind
    · obtain ⟨a, here, same⟩ := List.mem_map.1 front
      exact ⟨a, List.mem_append_left _ here, same⟩
    · obtain ⟨a, here, same⟩ := List.mem_map.1 behind
      exact ⟨a, List.mem_append_right _ (List.mem_cons_of_mem _ (List.mem_of_mem_take here)),
        same⟩

theorem not_separator_parse (name : List UInt8) :
    ∀ b ∈ (parse name).title ++ (parse name).extension, ¬ Separator b := by
  intro b inside
  obtain ⟨a, here, rfl⟩ := mem_of_mem_parse inside
  exact not_separator_capital (not_separator_of_mem_withoutPath here)

theorem not_separator_toBytes (clear : ∀ b ∈ n.title ++ n.extension, ¬ Separator b) :
    ∀ b ∈ n.toBytes, ¬ Separator b := by
  intro b inside
  rcases mem_toBytes inside with part | rfl
  · exact clear b part
  · rintro (same | same) <;> cases same

/-- How a name without separators is read: at its last dot. -/
theorem Issued.parse_toBytes (issued : n.Issued)
    (clear : ∀ b ∈ n.title ++ n.extension, ¬ Separator b) :
    parse n.toBytes = ⟨(splitExtension n.toBytes).1, (splitExtension n.toBytes).2.getD []⟩ := by
  have settled := settled_toBytes issued.settled
  rw [parse, withoutPath_eq (not_separator_toBytes clear)]
  rcases splitExtension_cases n.toBytes with ⟨_, same⟩ | ⟨title, tail, parts, _, same⟩
  · rw [same]
    simp only [Option.getD_none, List.map_nil]
    rw [Issued.map_capital settled]
  · rw [same]
    rw [parts] at settled
    have front := Issued.map_capital fun b inside => settled b (List.mem_append_left _ inside)
    have behind := Issued.map_capital fun b (inside : b ∈ tail.take 3) =>
      settled b (List.mem_append_right _ (List.mem_cons_of_mem _ (List.mem_of_mem_take inside)))
    simp only [Option.getD_some, front, behind]

/-- Reading gives back the legible names and no others. -/
theorem Issued.parse_toBytes_iff (issued : n.Issued) : parse n.toBytes = n ↔ n.Legible := by
  constructor
  · intro same
    have clear := not_separator_parse n.toBytes
    rw [same] at clear
    refine ⟨clear, fun bare inside => ?_⟩
    have read := issued.parse_toBytes clear
    rw [same, toBytes_of_bare bare] at read
    rcases splitExtension_cases n.title with ⟨absent, _⟩ | ⟨title, tail, parts, _, split⟩
    · exact absent inside
    · -- The title that is read ends before the last dot.
      rw [split] at read
      have shorter := congrArg (fun m : FileName => m.title.length) read
      simp only [parts, List.length_append, List.length_cons] at shorter
      omega
  · intro legible
    rw [issued.parse_toBytes legible.clear]
    by_cases bare : n.extension = []
    · rw [toBytes_of_bare bare, splitExtension_eq_of_not_dot (legible.title bare),
        Option.getD_none, ← bare]
    · rw [toBytes_of_extension bare, splitExtension_eq_of_dot issued.undotted, Option.getD_some,
        List.take_of_length_le issued.short]

/-- A name without an extension whose title reads like another name with one. -/
def SpellsOut (n n' : FileName) : Prop :=
  n.extension = [] ∧ n'.extension ≠ [] ∧ n.title = n'.toBytes

/-- Names that read alike are the same, or one of them spells the other out. -/
theorem Issued.toBytes_eq_iff (issued : n.Issued) (issued' : n'.Issued) :
    n.toBytes = n'.toBytes ↔ n = n' ∨ n.SpellsOut n' ∨ n'.SpellsOut n := by
  constructor
  · intro same
    by_cases short : n.extension = [] <;> by_cases short' : n'.extension = []
    · rw [toBytes_of_bare short, toBytes_of_bare short'] at same
      obtain ⟨title, extension⟩ := n
      obtain ⟨title', extension'⟩ := n'
      dsimp only at short short' same
      rw [short, short', same]
      exact .inl rfl
    · rw [toBytes_of_bare short] at same
      exact .inr (.inl ⟨short, short', same⟩)
    · rw [toBytes_of_bare short'] at same
      exact .inr (.inr ⟨short', short, same.symm⟩)
    · rw [toBytes_of_extension short, toBytes_of_extension short'] at same
      have parts := congrArg splitExtension same
      rw [splitExtension_eq_of_dot issued.undotted, splitExtension_eq_of_dot issued'.undotted,
        List.take_of_length_le issued.short, List.take_of_length_le issued'.short] at parts
      obtain ⟨title, extension⟩ := n
      obtain ⟨title', extension'⟩ := n'
      cases parts
      exact .inl rfl
  · rintro (rfl | ⟨short, _, same⟩ | ⟨short', _, same⟩)
    · rfl
    · rw [toBytes_of_bare short, same]
    · rw [toBytes_of_bare short', same]

/-- A short name has no separators that its host name does not have. -/
theorem clear_of_image (clear : ∀ b ∈ image host, ¬ Separator b) (index : Option Nat) :
    ∀ b ∈ (ofHostName host index).title ++ (ofHostName host index).extension,
      ¬ Separator b := by
  intro b inside
  have number (here : b ∈ suffix index) : ¬ Separator b := (settled_of_mem_suffix here).2.2
  rcases ofHostName_cases host index with ⟨_, shape⟩ | ⟨title, tail, parts, _, shape⟩
  · rw [shape, List.append_nil] at inside
    rcases List.mem_append.1 inside with cut | here
    · exact clear b (List.mem_of_mem_take cut)
    · exact number here
  · rw [shape] at inside
    rw [parts] at clear
    rcases List.mem_append.1 inside with front | cut
    · rcases List.mem_append.1 front with cut | here
      · exact clear b (List.mem_append_left _ (List.mem_of_mem_take cut))
      · exact number here
    · exact clear b (List.mem_append_right _ (List.mem_cons_of_mem _ (List.mem_of_mem_take cut)))

/-- A dot gets into the title of a short name without an extension just from host names
that end in another one. -/
theorem image_of_dotted_title (bare : (ofHostName host index).extension = [])
    (dotted : dot ∈ (ofHostName host index).title) :
    ∃ front, image host = front ++ [dot] ∧
      (ofHostName host index).title = front.take (8 - (suffix index).length) ++ suffix index := by
  have undotted : dot ∉ suffix index := fun here => (settled_of_mem_suffix here).2.1 rfl
  rcases ofHostName_cases host index with ⟨absent, shape⟩ | ⟨front, tail, parts, _, shape⟩
  · rw [shape] at dotted
    rcases List.mem_append.1 dotted with cut | here
    · exact absurd (List.mem_of_mem_take cut) absent
    · exact absurd here undotted
  · rw [shape] at bare ⊢
    cases tail with
    | nil => exact ⟨front, parts, rfl⟩
    | cons b tail => cases bare

/-- Neither a cut title nor one with a number is longer than the host name by its last dot. -/
theorem take_append_suffix_ne (front : List UInt8) (most : Nat) (index : Option Nat) :
    front.take most ++ suffix index ≠ front ++ [dot] ++ [dot] := by
  intro same
  by_cases numbered : suffix index = []
  · have lengths := congrArg List.length same
    rw [numbered] at lengths
    simp only [List.length_append, List.length_take, List.length_cons, List.length_nil] at lengths
    omega
  · have ends := congrArg List.getLast? same
    rw [List.getLast?_append_of_ne_nil _ numbered, List.getLast?_concat] at ends
    exact (settled_of_mem_suffix (List.mem_of_getLast? ends)).2.1 rfl

/-- Where a host file is called by what is read from one of its own short names,
that name is legible. -/
theorem legible_of_image (host : String) (index : Option Nat)
    (same : image host = (parse (ofHostName host index).toBytes).toBytes) :
    (ofHostName host index).Legible := by
  have read := not_separator_toBytes (not_separator_parse (ofHostName host index).toBytes)
  rw [← same] at read
  have clear := clear_of_image read index
  refine ⟨clear, fun bare dotted => ?_⟩
  -- The host name ends in a dot. It would be what is read from the title, which is cut at its own
  -- last dot.
  obtain ⟨front, whole, shape⟩ := image_of_dotted_title bare dotted
  rw [(issued_ofHostName host index).parse_toBytes clear, toBytes_of_bare bare, whole] at same
  rcases splitExtension_cases (ofHostName host index).title with ⟨absent, _⟩ |
    ⟨title, tail, parts, undotted, split⟩
  · exact absent dotted
  rw [split] at same
  cases tail with
  | nil =>
    have title_eq : front ++ [dot] = title := same
    rw [← title_eq, shape] at parts
    exact take_append_suffix_ne front _ index parts
  | cons b tail =>
    have cut : front ++ [dot] = title ++ dot :: (b :: tail).take 3 := same
    have ends := congrArg List.getLast? cut
    rw [List.getLast?_concat, List.getLast?_append_cons, List.take_succ_cons,
      List.getLast?_cons_cons] at ends
    have last : dot ∈ b :: tail.take 2 := List.mem_of_getLast? ends.symm
    rw [← List.take_succ_cons] at last
    exact undotted (List.mem_of_mem_take last)

/-- What is read from a short name of a host file holds nothing but settled bytes. -/
theorem Issued.settled_parse (issued : n.Issued) :
    ∀ b ∈ (parse n.toBytes).toBytes, Settled b := by
  refine settled_toBytes fun b inside => ?_
  obtain ⟨a, here, rfl⟩ := mem_of_mem_parse inside
  have known := settled_toBytes issued.settled a (mem_of_mem_withoutPath here)
  exact ⟨ascii_capital known.1, capital_capital a⟩

/-- A host file that is called by settled bytes has these as its image. -/
theorem image_of_decodeLossy {bytes : List UInt8} (settled : ∀ b ∈ bytes, Settled b) :
    image (decodeLossy bytes) = bytes := by
  rw [image, Text.Utf8.toList_decodeLossy fun b inside => (settled b inside).1, List.map_map]
  refine (List.map_congr_left fun b inside => ?_).trans (List.map_id _)
  obtain ⟨ascii, capital⟩ := settled b inside
  have small : (charOf b).toNat < 0x80 := by
    rw [Text.Utf8.toNat_charOf ascii]
    exact ascii
  rw [Function.comp_apply, hostByte, if_pos small, Text.Utf8.toNat_charOf ascii, UInt8.ofNat_toNat,
    capital, id_eq]

/-- A name that is not legible is not read as the name of its own host file. -/
theorem host_ne_of_not_legible (illegible : ¬ (ofHostName host index).Legible) :
    host ≠ decodeLossy (parse (ofHostName host index).toBytes).toBytes := by
  intro same
  have read := image_of_decodeLossy (issued_ofHostName host index).settled_parse
  rw [← same] at read
  exact illegible (legible_of_image host index read)

end Legible

end RealMode.Dos.FileName
