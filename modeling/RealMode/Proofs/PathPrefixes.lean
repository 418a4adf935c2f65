import RealMode.Proofs.Searches

/-!
# Drives and paths in front of a name

What a program puts in front of a name, up to a last backslash or colon, and the case of its letters
say nothing about the file. To create and to open a file, they are dropped. A search drops them as
well before it compares, but looks for a dot in all that it was given: a dot in front of a name that
has none makes it a search for names without an extension.
-/

namespace RealMode.Dos

namespace FileName

section Capitals

variable {name spelled : List UInt8} {p : UInt8 → Bool}

/-- The last place to split does not depend on case. -/
theorem splitLast_map_capital (blind : ∀ b, p (capital b) = p b) (name : List UInt8) :
    splitLast p (name.map capital) =
      (splitLast p name).map (Prod.map (List.map capital) (List.map capital)) := by
  rcases splitLast_cases p name with ⟨nowhere, same⟩ |
    ⟨before, x, after, rfl, here, last, same⟩
  · rw [same, splitLast_eq_none]
    · rfl
    · intro b inside
      obtain ⟨a, there, rfl⟩ := List.mem_map.1 inside
      rw [blind]
      exact nowhere a there
  · rw [same, List.map_append, List.map_cons, splitLast_append]
    · rfl
    · rw [blind]
      exact here
    · intro b inside
      obtain ⟨a, there, rfl⟩ := List.mem_map.1 inside
      rw [blind]
      exact last a there

theorem capital_beq {c : UInt8} (large : ¬ (0x41 ≤ c ∧ c ≤ 0x5a))
    (small : ¬ (0x61 ≤ c ∧ c ≤ 0x7a)) (b : UInt8) :
    (capital b == c) = (b == c) := by
  rw [Bool.eq_iff_iff, beq_iff_eq, beq_iff_eq]
  exact capital_eq_iff large small

theorem withoutPath_map_capital (name : List UInt8) :
    withoutPath (name.map capital) = (withoutPath name).map capital := by
  have blind (b : UInt8) :
      (capital b == backslash || capital b == colon) = (b == backslash || b == colon) := by
    rw [capital_beq (by decide) (by decide), capital_beq (by decide) (by decide)]
  rw [withoutPath, withoutPath, splitLast_map_capital blind]
  cases splitLast (fun b => b == backslash || b == colon) name <;> rfl

theorem splitExtension_map_capital (name : List UInt8) :
    splitExtension (name.map capital) =
      ((splitExtension name).1.map capital, (splitExtension name).2.map (List.map capital)) := by
  rw [splitExtension, splitExtension, splitLast_map_capital (capital_beq (by decide) (by decide))]
  cases splitLast (· == dot) name with
  | none => rfl
  | some parts =>
    obtain ⟨title, tail⟩ := parts
    simp only [Option.map_some, Prod.map_apply, List.map_take]

/-- A name is read from its capital letters. -/
theorem parse_eq_capitals (name : List UInt8) :
    parse name =
      ⟨(splitExtension (withoutPath (name.map capital))).1,
        (splitExtension (withoutPath (name.map capital))).2.getD []⟩ := by
  rw [withoutPath_map_capital, splitExtension_map_capital, parse]
  obtain ⟨title, tail⟩ := splitExtension (withoutPath name)
  cases tail <;> rfl

theorem parse_congr (alike : spelled.map capital = name.map capital) :
    parse spelled = parse name := by
  rw [parse_eq_capitals, parse_eq_capitals name, alike]

theorem dot_mem_map_capital : dot ∈ name.map capital ↔ dot ∈ name := by
  constructor
  · intro inside
    obtain ⟨b, there, same⟩ := List.mem_map.1 inside
    rwa [← dot_of_capital same]
  · intro inside
    exact List.mem_map_of_mem (f := capital) inside

theorem dot_mem_congr (alike : spelled.map capital = name.map capital) : dot ∈ spelled ↔
    dot ∈ name := by
  rw [← dot_mem_map_capital, alike, dot_mem_map_capital]

end Capitals

section Fronts

variable {front name spelled : List UInt8}

theorem withoutPath_front (ends : IsFront front) (name : List UInt8) :
    withoutPath (front ++ name) = withoutPath name := by
  rcases splitLast_cases (fun b => b == backslash || b == colon) name with
    ⟨nowhere, same⟩ | ⟨before, x, after, rfl, here, last, same⟩
  · have plain : ∀ b ∈ name, b ≠ backslash ∧ b ≠ colon := by
      intro b inside
      have absent := nowhere b inside
      rwa [Bool.or_eq_false_iff, beq_eq_false_iff_ne, beq_eq_false_iff_ne] at absent
    rw [withoutPath_append ends plain, withoutPath, same]
  · rw [withoutPath, withoutPath, same, ← List.append_assoc,
      splitLast_append (p := fun b => b == backslash || b == colon) here last]

theorem parse_front (ends : IsFront front) (alike : spelled.map capital = name.map capital) :
    parse (front ++ spelled) = parse name := by
  have same : parse (front ++ spelled) = parse spelled := by
    rw [parse, withoutPath_front ends, ← parse]
  rw [same, parse_congr alike]

end Fronts

section Answers

variable {front name spelled : List UInt8}

theorem isNone_splitExtension (name : List UInt8) : (splitExtension name).2.isNone = true ↔
    dot ∉ name := by
  rcases splitExtension_cases name with ⟨undotted, same⟩ | ⟨title, tail, rfl, _, same⟩
  · rw [same]
    exact ⟨fun _ => undotted, fun _ => rfl⟩
  · rw [same]
    constructor
    · intro none
      cases none
    · intro undotted
      exact absurd (List.mem_append_right _ List.mem_cons_self) undotted

/-- A search looks at extensions just when there is a dot anywhere in what it was given. -/
theorem answers_iff (n : FileName) (search : List UInt8) :
    n.answers search = true ↔ Wildcard.covers (parse search).title n.title = true ∧
      (dot ∈ search → Wildcard.covers (parse search).extension n.extension = true) := by
  rw [answers, Bool.and_eq_true, Bool.or_eq_true, isNone_splitExtension, ← imp_iff_not_or]

theorem extension_parse_of_not_dot (undotted : dot ∉ name) : (parse name).extension = [] := by
  have behind : dot ∉ withoutPath name := fun inside => undotted (mem_of_mem_withoutPath inside)
  rw [parse, splitExtension_eq_of_not_dot behind]
  rfl

theorem answers_front (ends : IsFront front) (alike : spelled.map capital = name.map capital)
    (dotted : dot ∈ front → dot ∈ name) (n : FileName) :
    n.answers (front ++ spelled) = n.answers name := by
  have dots : dot ∈ front ++ spelled ↔ dot ∈ name := by
    rw [List.mem_append, dot_mem_congr alike]
    exact or_iff_right_of_imp dotted
  rw [Bool.eq_iff_iff, answers_iff, answers_iff, parse_front ends alike, dots]

/-- A dot that stands in front alone asks for names without an extension. -/
theorem answers_dotted_front (ends : IsFront front) (alike : spelled.map capital = name.map capital)
    (dotted : dot ∈ front) (undotted : dot ∉ name) (n : FileName) :
    n.answers (front ++ spelled) = (n.answers name && n.extension.isEmpty) := by
  have all : dot ∈ front ++ spelled := List.mem_append_left _ dotted
  rw [Bool.eq_iff_iff, Bool.and_eq_true, answers_iff, answers_iff, parse_front ends alike,
    extension_parse_of_not_dot undotted, Wildcard.covers]
  constructor
  · rintro ⟨title, extension⟩
    exact ⟨⟨title, fun inside => absurd inside undotted⟩, extension all⟩
  · rintro ⟨⟨title, _⟩, bare⟩
    exact ⟨title, fun _ => bare⟩

end Answers

end FileName

namespace FileSystem

open FileName (IsFront dot capital parse)

variable {front name spelled : List UInt8}

theorem create_congr (fs : FileSystem) (same : parse spelled = parse name) :
    fs.create spelled = fs.create name := by
  unfold create
  rw [same]

theorem openFile_congr (fs : FileSystem) (same : parse spelled = parse name) (mode : AccessMode) :
    fs.openFile spelled mode = fs.openFile name mode := by
  unfold openFile
  rw [same]

theorem search_congr (fs : FileSystem)
    (same : ∀ n : FileName, n.answers spelled = n.answers name) :
    fs.search spelled = fs.search name := by
  have answers : (fun n : FileName => n.answers spelled) = fun n => n.answers name := funext same
  rw [search_eq, search_eq, answers]

/-- The names without an extension among those that a search shows. -/
def bareNames (names : List FileName) : List FileName := names.filter (·.extension.isEmpty)

theorem search_dotted_front (fs : FileSystem) (ends : IsFront front)
    (alike : spelled.map capital = name.map capital) (dotted : dot ∈ front)
    (undotted : dot ∉ name) :
    fs.search (front ++ spelled) =
      { fs.search name with found := bareNames (fs.search name).found } := by
  have answers : (fun n : FileName => n.answers (front ++ spelled)) =
      fun n => n.extension.isEmpty && n.answers name := by
    funext n
    rw [FileName.answers_dotted_front ends alike dotted undotted, Bool.and_comm]
  rw [search_eq, search_eq, answers, ← List.filter_filter]
  rfl

/-- What stands in front of a name and the case of its letters make no difference to `create`
and `openFile`. To a search they make none either, neither to what it shows nor to anything
after it, unless a dot stands in front of a name that has none: then the search shows the names
without an extension among those that the name alone would show, and it is the same search just
when there are no others. -/
theorem front_matters_to_undotted_searches (fs : FileSystem) (ends : IsFront front)
    (alike : spelled.map capital = name.map capital) :
    fs.create (front ++ spelled) = fs.create name ∧
      (∀ mode, fs.openFile (front ++ spelled) mode = fs.openFile name mode) ∧
      ((dot ∈ front → dot ∈ name) → fs.search (front ++ spelled) = fs.search name) ∧
      (dot ∈ front → dot ∉ name →
        fs.search (front ++ spelled) =
          { fs.search name with found := bareNames (fs.search name).found } ∧
        (∀ events : List FileEvent, (∀ event ∈ events, event.isSearch = false) →
          ((fs.search (front ++ spelled)).run events).nextFound.1.map Prod.fst =
            answerAfter (bareNames (fs.search name).found) (events.countP FileEvent.isNext)) ∧
        (fs.search (front ++ spelled) = fs.search name ↔
          ∀ shown ∈ (fs.search name).found, shown.extension = [])) := by
  have same := FileName.parse_front ends alike
  refine ⟨fs.create_congr same, fs.openFile_congr same, fun dotted => ?_,
    fun dotted undotted => ?_⟩
  · exact fs.search_congr (FileName.answers_front ends alike dotted)
  have bared := search_dotted_front fs ends alike dotted undotted
  refine ⟨bared, fun events quiet => ?_, ?_⟩
  · rw [nextFound_run quiet, bared]
  · rw [bared]
    constructor
    · intro same shown inside
      have found : bareNames (fs.search name).found = (fs.search name).found :=
        congrArg FileSystem.found same
      exact List.isEmpty_iff.1 (List.filter_eq_self.1 found shown inside)
    · intro none
      have found : bareNames (fs.search name).found = (fs.search name).found :=
        List.filter_eq_self.2 fun shown inside => List.isEmpty_iff.2 (none shown inside)
      rw [found]

section Runs

open Text.Utf8 (encode)

/-- A directory with names of both kinds. -/
def mixed : Disk := rootWith ["list", "log.txt", "lost"]

/-- After `C:\BBS.V6\l*` only the two names without an extension are left of what `L*` shows. -/
theorem dotted_path_shows_bare_names :
    let fs := mount mixed [] "/r"
    let events := [.operation .nextFound, .operation (.create (encode "LAST"))]
    fs.create (encode "C:\\BBS.V6\\l.txt") = fs.create (encode "L.TXT") ∧
      (fs.search (encode "L*")).found.length = 3 ∧
      (bareNames (fs.search (encode "L*")).found).length = 2 ∧
      ((fs.search (encode "C:\\BBS.V6\\l*")).run events).nextFound.1.map Prod.fst =
        answerAfter (bareNames (fs.search (encode "L*")).found) 1 := by
  intro fs events
  have leads : mixed.find [] "/r" = .ok (.directory ["r"]) := by decide +kernel
  have sorted : (mixed.entries.filterMap (Disk.fileName? ["r"])).Pairwise (· ≤ ·) := by
    decide +kernel
  have found : (fs.search (encode "L*")).found =
      [⟨encode "LIST", []⟩, ⟨encode "LOG", encode "TXT"⟩, ⟨encode "LOST", []⟩] := by
    rw [(search_mount mixed [] "/r" _).2, listing_of_sorted leads sorted]
    decide +kernel
  have split : encode "C:\\BBS.V6\\l*" = encode "C:\\BBS.V6\\" ++ encode "l*" := by decide +kernel
  have split' : encode "C:\\BBS.V6\\l.txt" = encode "C:\\BBS.V6\\" ++ encode "l.txt" := by
    decide +kernel
  have ends : IsFront (encode "C:\\BBS.V6\\") := by decide +kernel
  have alike : (encode "l.txt").map capital = (encode "L.TXT").map capital := by decide +kernel
  have alike' : (encode "l*").map capital = (encode "L*").map capital := by decide +kernel
  obtain ⟨created, _⟩ := front_matters_to_undotted_searches fs ends alike
  obtain ⟨_, _, _, searched⟩ := front_matters_to_undotted_searches fs ends alike'
  obtain ⟨_, shown, _⟩ := searched (by decide +kernel) (by decide +kernel)
  refine ⟨by rw [split', created], by rw [found]; rfl, by rw [found]; rfl, ?_⟩
  rw [split]
  exact shown events (by decide)

/-- A directory with one text file. -/
def oneText : Disk := rootWith ["a.txt"]

/-- `.\*` shows nothing where `*` shows `A.TXT`. -/
theorem dotted_path_hides_extension :
    let fs := mount oneText [] "/r"
    IsFront (encode ".\\") ∧ encode ".\\*" = encode ".\\" ++ encode "*" ∧
      (fs.search (encode "*")).nextFound.1.map Prod.fst = .ok ⟨encode "A", encode "TXT"⟩ ∧
      (fs.search (encode ".\\*")).nextFound.1.map Prod.fst = .error .noMoreFiles := by
  intro fs
  have leads : oneText.find [] "/r" = .ok (.directory ["r"]) := by decide +kernel
  have sorted : (oneText.entries.filterMap (Disk.fileName? ["r"])).Pairwise (· ≤ ·) := by
    decide +kernel
  have found : (fs.search (encode "*")).found = [⟨encode "A", encode "TXT"⟩] := by
    rw [(search_mount oneText [] "/r" _).2, listing_of_sorted leads sorted]
    decide +kernel
  have found' : (fs.search (encode ".\\*")).found = [] := by
    rw [(search_mount oneText [] "/r" _).2, listing_of_sorted leads sorted]
    decide +kernel
  refine ⟨by decide +kernel, by decide +kernel, ?_, ?_⟩
  · rw [nextFound_of_cons found]
    rfl
  · rw [nextFound_of_empty found']
    rfl

end Runs

end FileSystem

end RealMode.Dos
