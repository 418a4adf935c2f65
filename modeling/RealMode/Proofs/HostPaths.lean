import RealMode.Dos.Disk

/-!
# Paths with a plain name at the end

A plain name is one component of a path: no slash, and none of the names that stay where they
are or go up. A plain name joined to the path of a directory leads to the entry of that name in
the directory, or nowhere.
-/

namespace RealMode.Dos.Disk

structure Plain (name : String) : Prop where
  nonempty : name ≠ ""
  not_here : name ≠ "."
  not_above : name ≠ ".."
  no_slash : '/' ∉ name.toList

instance (name : String) : Decidable (Plain name) :=
  decidable_of_iff (name ≠ "" ∧ name ≠ "." ∧ name ≠ ".." ∧ '/' ∉ name.toList)
    ⟨fun ⟨a, b, c, d⟩ => ⟨a, b, c, d⟩, fun ⟨a, b, c, d⟩ => ⟨a, b, c, d⟩⟩

/-- All names of a path are plain. -/
def PlainPath (path : Path) : Prop := ∀ name ∈ path, Plain name

instance (path : Path) : Decidable (PlainPath path) :=
  inferInstanceAs (Decidable (∀ name ∈ path, Plain name))

/-- Every entry has a path of plain names. -/
def Proper (d : Disk) : Prop := ∀ e ∈ d.entries, PlainPath e.1

instance (d : Disk) : Decidable d.Proper :=
  inferInstanceAs (Decidable (∀ e ∈ d.entries, PlainPath e.1))

variable {d : Disk} {here dir path : Path} {root host name : String} {found : Found}

section Components

theorem not_mem_of_mem_splitOn {α : Type} [DecidableEq α] {sep : α} {xs piece : List α}
    (inside : piece ∈ xs.splitOn sep) : sep ∉ piece := by
  induction xs generalizing piece with
  | nil =>
    rw [List.splitOn_nil, List.mem_singleton] at inside
    rw [inside]
    exact List.not_mem_nil
  | cons x xs ih =>
    rw [List.splitOn_cons_eq_if_modifyHead] at inside
    split at inside
    · rcases List.mem_cons.1 inside with rfl | inside
      · exact List.not_mem_nil
      · exact ih inside
    · next other =>
      obtain ⟨first, rest, pieces⟩ := List.exists_cons_of_ne_nil (List.splitOn_ne_nil sep xs)
      rw [pieces, List.modifyHead_cons] at inside
      rw [pieces] at ih
      rcases List.mem_cons.1 inside with rfl | inside
      · intro bad
        rcases List.mem_cons.1 bad with rfl | bad
        · exact other (beq_self_eq_true _)
        · exact ih List.mem_cons_self bad
      · exact ih (List.mem_cons_of_mem _ inside)

theorem of_mem_namesOf (inside : name ∈ namesOf root) : name ≠ "" ∧ '/' ∉ name.toList := by
  obtain ⟨piece, listed, rfl⟩ := List.mem_map.1 inside
  obtain ⟨listed, filled⟩ := List.mem_filter.1 listed
  rw [String.toList_ofList]
  refine ⟨?_, not_mem_of_mem_splitOn listed⟩
  intro none
  rw [← String.toList_inj, String.toList_ofList] at none
  rw [none] at filled
  cases filled

/-- A slash separates names, however many there are on its sides. -/
theorem namesOf_of_slash {whole before after : String}
    (parts : whole.toList = before.toList ++ '/' :: after.toList) :
    namesOf whole = namesOf before ++ namesOf after := by
  simp only [namesOf, parts, List.splitOn_append_cons_self, List.filter_append, List.map_append]

theorem namesOf_plain (plain : Plain name) : namesOf name = [name] := by
  have filled : name.toList ≠ [] := fun none => plain.nonempty (String.toList_inj.1 none)
  simp [namesOf, List.splitOn_eq_singleton plain.no_slash, filled]

theorem join_plain (root : String) (plain : Plain host) :
    join root host = root ++ host ∧ (root = "" ∨ root.toList.getLast? = some '/') ∨
      join root host = root ++ "/" ++ host ∧ root ≠ "" := by
  have relative : host.startsWith '/' = false := by
    rw [String.startsWith_char_eq_head?, beq_eq_false_iff_ne]
    exact fun slash => plain.no_slash (List.mem_of_head? slash)
  rw [join, relative, if_neg Bool.false_ne_true]
  by_cases ends : (root.isEmpty || root.endsWith '/') = true
  · rw [if_pos ends]
    rw [Bool.or_eq_true, String.isEmpty_iff, String.endsWith_char_eq_getLast?, beq_iff_eq] at ends
    exact .inl ⟨rfl, ends⟩
  · rw [if_neg ends]
    rw [Bool.or_eq_true, String.isEmpty_iff] at ends
    exact .inr ⟨rfl, fun none => ends (.inl none)⟩

theorem namesOf_join (plain : Plain host) : namesOf (join root host) = namesOf root ++ [host] := by
  rw [← namesOf_plain plain]
  rcases join_plain root plain with ⟨joined, rfl | slash⟩ | ⟨joined, _⟩
  · rw [joined, String.empty_append]
    rfl
  -- A slash at the end of the root separates as well as one that is put between.
  · obtain ⟨before, parts⟩ := List.getLast?_eq_some_iff.1 slash
    have parts' : root.toList = (String.ofList before).toList ++ '/' :: "".toList := by
      rw [String.toList_ofList, parts]
      rfl
    have whole : (root ++ host).toList = (String.ofList before).toList ++ '/' :: host.toList := by
      rw [String.toList_append, parts, String.toList_ofList, List.append_assoc]
      rfl
    have none : namesOf "" = [] := rfl
    rw [joined, namesOf_of_slash whole, namesOf_of_slash parts', none, List.append_nil]
  · have whole : (root ++ "/" ++ host).toList = root.toList ++ '/' :: host.toList := by
      rw [String.toList_append, String.toList_append, List.append_assoc]
      rfl
    rw [joined, namesOf_of_slash whole]

end Components

section Following

/-- Where a path starts. -/
def origin (here : Path) (path : String) : Path :=
  if path.toList.head? = some '/' then [] else here

/-- A path that names are looked up for. -/
structure Followable (path : String) : Prop where
  filled : path ≠ ""
  clean : '\x00' ∉ path.toList
  short : path.utf8ByteSize ≤ maxPath

theorem find_eq_follow {path : String} (followable : Followable path) :
    d.find here path =
      d.follow (origin here path) (path.toList.getLast? == some '/') (namesOf path) := by
  have clean := followable.clean
  unfold find
  dsimp only
  rw [if_neg (by rw [List.contains_iff_mem]; exact clean),
    if_neg (Nat.not_lt.2 followable.short), origin]
  cases chars : path.toList with
  | nil => exact absurd (String.toList_inj.1 chars) followable.filled
  | cons c cs =>
    by_cases slash : c = '/'
    · rw [slash, List.head?_cons, if_pos rfl]
      rfl
    · rw [List.head?_cons, if_neg fun same => slash (Option.some.inj same)]
      split
      · next none => cases none
      · next same =>
        cases same
        exact absurd rfl slash
      · rfl

theorem followable_of_find {path : String} (given : d.find here path = .ok found) :
    Followable path := by
  unfold find at given
  dsimp only at given
  split at given
  · cases given
  next clean =>
  split at given
  · cases given
  next short =>
  refine ⟨?_, fun inside => clean (List.contains_iff_mem.2 inside), Nat.le_of_not_lt short⟩
  rintro rfl
  cases given

theorem of_bind_ok {α β : Type} {x : Except Obstacle α} {f : α → Except Obstacle β} {b : β}
    (given : x >>= f = .ok b) : ∃ a, x = .ok a ∧ f a = .ok b := by
  cases x with
  | error o => cases given
  | ok a => exact ⟨a, rfl, given⟩

/-- The directory that names lead to one after the other. -/
def walk (d : Disk) (here : Path) (names : List String) : Except Obstacle Path :=
  names.foldlM d.enter here

theorem follow_concat (d : Disk) (here : Path) (b : Bool) (names : List String) (name : String) :
    d.follow here b (names ++ [name]) = d.walk here names >>= fun dir => d.arrive dir name b := by
  induction names generalizing here with
  | nil => rfl
  | cons first names ih =>
    have rest : names ++ [name] ≠ [] := by simp
    rw [List.cons_append, follow.eq_3 _ _ _ _ _ rest, walk, List.foldlM_cons, bind_assoc]
    exact bind_congr fun here => ih here

theorem walk_cons_eq_ok_iff {names : List String} :
    d.walk here (name :: names) = .ok path ↔
    ∃ next, d.enter here name = .ok next ∧ d.walk next names = .ok path := by
  rw [walk, List.foldlM_cons]
  constructor
  · exact of_bind_ok
  · rintro ⟨next, entered, walked⟩
    rw [entered]
    exact walked

theorem walk_concat (d : Disk) (here : Path) (names : List String) (name : String) :
    d.walk here (names ++ [name]) = d.walk here names >>= fun dir => d.enter dir name := by
  simp only [walk, List.foldlM_append, List.foldlM_cons, List.foldlM_nil, bind_pure]

theorem enter_eq_ok_iff :
    d.enter dir name = .ok path ↔
      name = "." ∧ path = dir ∨ name = ".." ∧ path = dir.dropLast ∨
        ((name ≠ "." ∧ name ≠ "..") ∧ name.utf8ByteSize ≤ maxName) ∧
          path = dir ++ [name] ∧ d.entry? path = some .directory := by
  unfold enter
  split
  · next same => simp [same, eq_comm]
  next notHere =>
  split
  · next above => simp [above, eq_comm]
  next notAbove =>
  split
  · next long => simp [notHere, notAbove, Nat.not_le.2 long]
  next short =>
  simp only [notHere, notAbove, false_and, false_or, ne_eq, not_false_eq_true, and_self, true_and,
    Nat.le_of_not_lt short]
  constructor
  · intro entered
    split at entered
    · next there =>
      cases entered
      exact ⟨rfl, there⟩
    · cases entered
    · cases entered
  · rintro ⟨rfl, there⟩
    rw [there]

/-- The last name leads to a directory just when the path can go on there. -/
theorem arrive_eq_directory_iff {b : Bool} :
    d.arrive dir name b = .ok (.directory path) ↔ d.enter dir name = .ok path := by
  unfold arrive enter
  repeat' split
  all_goals simp

theorem arrive_eq_ok {b : Bool} (arrived : d.arrive dir name b = .ok found) :
    (∃ path, found = .directory path ∧ d.enter dir name = .ok path) ∨
      (name ≠ "." ∧ name ≠ "..") ∧
        ((∃ number, found = .file number ∧ d.entry? (dir ++ [name]) = some (.file number)) ∨
          found = .missing (dir ++ [name]) b ∧ d.entry? (dir ++ [name]) = none) := by
  unfold arrive at arrived
  split at arrived
  · next same =>
    cases arrived
    exact .inl ⟨dir, rfl, if_pos same⟩
  next notHere =>
  split at arrived
  · next above =>
    cases arrived
    exact .inl ⟨dir.dropLast, rfl, by rw [enter, if_neg notHere, if_pos above]⟩
  next notAbove =>
  split at arrived
  · cases arrived
  next short =>
  split at arrived
  · next there =>
    cases arrived
    exact .inl ⟨_, rfl, by rw [enter, if_neg notHere, if_neg notAbove, if_neg short, there]⟩
  · next number there =>
    split at arrived
    · cases arrived
    · cases arrived
      exact .inr ⟨⟨notHere, notAbove⟩, .inl ⟨number, rfl, there⟩⟩
  · next missing =>
    cases arrived
    exact .inr ⟨⟨notHere, notAbove⟩, .inr ⟨rfl, missing⟩⟩

theorem follow_eq_directory_iff {b : Bool} {names : List String} :
    d.follow here b names = .ok (.directory path) ↔ d.walk here names = .ok path := by
  rcases List.eq_nil_or_concat names with rfl | ⟨init, name, rfl⟩
  · constructor <;> (intro given; cases given; rfl)
  · rw [List.concat_eq_append, follow_concat, walk_concat]
    cases d.walk here init with
    | error o => constructor <;> (intro given; cases given)
    | ok dir => exact arrive_eq_directory_iff

/-- The directory that a path stands for; the empty one stands for `here`. -/
def directory? (d : Disk) (here : Path) (path : String) : Option Path :=
  if path = "" then some here
  else
    match d.find here path with
    | .ok (.directory dir) => some dir
    | _ => none

theorem directory?_eq_some_iff :
    d.directory? here root = some dir ↔
      (root ≠ "" → Followable root) ∧ d.walk (origin here root) (namesOf root) = .ok dir := by
  rw [directory?]
  split
  · next none =>
    subst none
    constructor
    · intro same
      cases same
      exact ⟨fun named => absurd rfl named, rfl⟩
    · rintro ⟨_, same⟩
      cases same
      rfl
  · next named =>
    constructor
    · intro same
      split at same
      · next path there =>
        cases same
        have followable := followable_of_find there
        rw [find_eq_follow followable] at there
        exact ⟨fun _ => followable, follow_eq_directory_iff.1 there⟩
      · cases same
    · rintro ⟨followable, walked⟩
      rw [find_eq_follow (followable named), follow_eq_directory_iff.2 walked]

theorem exists_join_eq (root : String) (plain : Plain host) :
    ∃ middle, join root host = root ++ (middle ++ host) ∧ (root = "" → middle = "") := by
  rcases join_plain root plain with ⟨joined, _⟩ | ⟨joined, named⟩
  · exact ⟨"", by rw [joined, String.empty_append], fun _ => rfl⟩
  · exact ⟨"/", by rw [joined, String.append_assoc], fun none => absurd none named⟩

theorem origin_join (plain : Plain host) : origin here (join root host) = origin here root := by
  obtain ⟨middle, joined, alone⟩ := exists_join_eq root plain
  rw [origin, origin, joined, String.toList_append]
  by_cases named : root = ""
  · rw [named, alone named, String.empty_append]
    have relative : ¬ host.toList.head? = some '/' :=
      fun slash => plain.no_slash (List.mem_of_head? slash)
    rw [String.toList_empty, List.nil_append, if_neg relative]
    rfl
  · cases chars : root.toList with
    | nil => exact absurd (String.toList_inj.1 chars) named
    | cons c cs => rfl

theorem getLast?_join (plain : Plain host) : (join root host).toList.getLast? ≠ some '/' := by
  obtain ⟨middle, joined, -⟩ := exists_join_eq root plain
  rw [joined, String.toList_append, String.toList_append, ← List.append_assoc,
    List.getLast?_append]
  cases last : host.toList.getLast? with
  | none => exact absurd (String.toList_inj.1 (List.getLast?_eq_none_iff.1 last)) plain.nonempty
  | some c =>
    rw [Option.some_or]
    exact fun slash => plain.no_slash (List.mem_of_getLast? (last.trans slash))

theorem followable_of_join (plain : Plain host) (followable : Followable (join root host))
    (named : root ≠ "") : Followable root := by
  obtain ⟨middle, joined, -⟩ := exists_join_eq root plain
  rw [joined] at followable
  refine ⟨named, fun inside => followable.clean ?_, ?_⟩
  · rw [String.toList_append]
    exact List.mem_append_left _ inside
  · have short := followable.short
    rw [String.utf8ByteSize_append] at short
    omega

def SameDirectories (d d' : Disk) : Prop := ∀ path, d'.entry? path = some .directory ↔
  d.entry? path = some .directory

theorem SameDirectories.enter {d' : Disk} (same : SameDirectories d d') :
    d'.enter dir name = .ok path ↔ d.enter dir name = .ok path := by
  rw [enter_eq_ok_iff, enter_eq_ok_iff, same]

theorem SameDirectories.walk {d' : Disk} (same : SameDirectories d d') {names : List String} :
    d'.walk here names = .ok dir ↔ d.walk here names = .ok dir := by
  induction names generalizing here with
  | nil => rfl
  | cons name names ih => simp only [walk_cons_eq_ok_iff, same.enter, ih]

theorem SameDirectories.directory? {d' : Disk} (same : SameDirectories d d') :
    d'.directory? here root = d.directory? here root := by
  refine Option.ext fun dir => ?_
  rw [directory?_eq_some_iff, directory?_eq_some_iff, same.walk]

/-- A plain name behind a path is looked up in the directory that the path stands for. -/
theorem find_join (plain : Plain host) (given : d.find here (join root host) = .ok found) :
    ∃ dir, d.directory? here root = some dir ∧ d.arrive dir host false = .ok found := by
  have followable := followable_of_find given
  rw [find_eq_follow followable, origin_join plain, namesOf_join plain, follow_concat,
    beq_eq_false_iff_ne.2 (getLast?_join plain)] at given
  obtain ⟨dir, through, arrived⟩ := of_bind_ok given
  exact ⟨dir, directory?_eq_some_iff.2 ⟨followable_of_join plain followable, through⟩,
    arrived⟩

end Following

section PlainPaths

theorem PlainPath.concat (plain : PlainPath dir) (last : Plain name) :
    PlainPath (dir ++ [name]) := by
  intro other inside
  rcases List.mem_append.1 inside with inside | inside
  · exact plain other inside
  · rw [List.mem_singleton.1 inside]
    exact last

theorem plainPath_origin (plain : PlainPath here) : PlainPath (origin here root) := by
  rw [origin]
  split
  · exact fun _ none => absurd none List.not_mem_nil
  · exact plain

theorem plainPath_of_enter (plain : PlainPath dir) (component : name ≠ "" ∧ '/' ∉ name.toList)
    (entered : d.enter dir name = .ok path) : PlainPath path := by
  rcases enter_eq_ok_iff.1 entered with ⟨_, rfl⟩ | ⟨_, rfl⟩ |
    ⟨⟨⟨notHere, notAbove⟩, _⟩, rfl, _⟩
  · exact plain
  · exact fun other inside => plain other ((List.dropLast_sublist _).subset inside)
  · exact plain.concat ⟨component.1, notHere, notAbove, component.2⟩

theorem plainPath_of_walk {names : List String} (plain : PlainPath here)
    (components : ∀ name ∈ names, name ≠ "" ∧ '/' ∉ name.toList)
    (walked : d.walk here names = .ok path) : PlainPath path := by
  induction names generalizing here with
  | nil =>
    cases walked
    exact plain
  | cons name names ih =>
    obtain ⟨next, entered, rest⟩ := walk_cons_eq_ok_iff.1 walked
    exact ih (plainPath_of_enter plain (components name List.mem_cons_self) entered)
      (fun other inside => components other (List.mem_cons_of_mem _ inside)) rest

/-- What a path does not find would get a plain path. -/
theorem plainPath_of_find {b : Bool} (plain : PlainPath here)
    (given : d.find here root = .ok (.missing path b)) : PlainPath path := by
  rw [find_eq_follow (followable_of_find given)] at given
  have components (name) (inside : name ∈ namesOf root) := of_mem_namesOf inside
  rcases List.eq_nil_or_concat (namesOf root) with none | ⟨init, name, names⟩
  · rw [none] at given
    cases given
  rw [List.concat_eq_append] at names
  rw [names] at components given
  rw [follow_concat] at given
  obtain ⟨dir, walked, arrived⟩ := of_bind_ok given
  have plainDir : PlainPath dir :=
    plainPath_of_walk (plainPath_origin plain)
      (fun other inside => components other (List.mem_append_left _ inside)) walked
  have last := components name (List.mem_append_right _ (List.mem_singleton_self name))
  rcases arrive_eq_ok arrived with ⟨_, bad, _⟩ |
    ⟨⟨notHere, notAbove⟩, ⟨_, bad, _⟩ | ⟨same, _⟩⟩
  · cases bad
  · cases bad
  · cases same
    exact plainDir.concat ⟨last.1, notHere, notAbove, last.2⟩

theorem plain_of_mem_fileNames (proper : d.Proper) (listed : name ∈ d.fileNames dir) :
    Plain name := by
  rw [fileNames, List.mem_mergeSort, List.mem_filterMap] at listed
  obtain ⟨⟨path, entry⟩, inside, named⟩ := listed
  cases entry with
  | directory => cases named
  | file number =>
    dsimp only at named
    split at named
    · exact proper _ inside name (List.mem_of_getLast? named)
    · cases named

/-- A plain name in a directory leads to its entry there. -/
theorem arrive_plain (plain : Plain name) (arrived : d.arrive dir name false = .ok found) :
    found = .directory (dir ++ [name]) ∨
      (∃ number, found = .file number ∧ d.entry? (dir ++ [name]) = some (.file number)) ∨
      found = .missing (dir ++ [name]) false ∧ d.entry? (dir ++ [name]) = none := by
  rcases arrive_eq_ok arrived with ⟨path, rfl, entered⟩ | ⟨_, there | missing⟩
  · rcases enter_eq_ok_iff.1 entered with ⟨bad, _⟩ | ⟨bad, _⟩ | ⟨_, rfl, _⟩
    · exact absurd bad plain.not_here
    · exact absurd bad plain.not_above
    · exact .inl rfl
  · exact .inr (.inl there)
  · exact .inr (.inr missing)

end PlainPaths

end RealMode.Dos.Disk
