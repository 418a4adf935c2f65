import Mathlib.Data.List.Induction
import RealMode.Proofs.FreshNames

/-!
# The table of short names as a mapping between two sides

A table grows by pairs whose short name was nobody's, so a short name never changes its host file,
and the short name of a host file always leads back to it. The other way round a pair can be lost: a
name that a program has asked for stands for itself, also where a host file of that name is known
under another one. As long as that does not happen, the two sides are inverse to each other.
-/

namespace RealMode.Dos.NameTable

variable {t t' : NameTable} {host other : String} {name shown : FileName} {hosts : List String}

section Growth

theorem shortName?_enter (t : NameTable) (host : String) (name : FileName) (other : String) :
    (t.enter host name).shortName? other = if other = host then some name
      else t.shortName? other := by
  rw [shortName?, enter, List.lookup_cons]
  by_cases same : other = host
  · rw [if_pos same, beq_iff_eq.2 same]
  · rw [if_neg same, beq_eq_false_iff_ne.2 same, shortName?]

theorem hostName?_enter (t : NameTable) (host : String) (name shown : FileName) :
    (t.enter host name).hostName? shown = if shown = name then some host
      else t.hostName? shown := by
  rw [hostName?, enter, List.lookup_cons]
  by_cases same : shown = name
  · rw [if_pos same, beq_iff_eq.2 same]
  · rw [if_neg same, beq_eq_false_iff_ne.2 same, hostName?]

/-- The two ways in which a table gets a pair: a host file without a name is given one that is
nobody's, or a name that is nobody's is asked for. -/
inductive Entry (t : NameTable) : String → FileName → Prop where
  | assigned {host : String} (k : Nat) (unknown : t.shortName? host = none)
      (free : t.hostName? (candidate host k) = none) : Entry t host (candidate host k)
  | guessed {name : FileName} (free : t.hostName? name = none) :
      Entry t (Text.Utf8.decodeLossy name.toBytes) name

theorem Entry.free (entry : t.Entry host name) : t.hostName? name = none := by
  cases entry with
  | assigned _ _ free => exact free
  | guessed free => exact free

/-- What can become of a table. -/
inductive Grows (t : NameTable) : NameTable → Prop where
  | refl : Grows t t
  | enter {t' : NameTable} {host : String} {name : FileName} (grows : Grows t t')
      (entry : t'.Entry host name) :
      Grows t (t'.enter host name)

theorem Grows.trans {t'' : NameTable} (first : t.Grows t') (second : t'.Grows t'') :
    t.Grows t'' := by
  induction second with
  | refl => exact first
  | enter _ entry ih => exact ih.enter entry

theorem grows_assign (t : NameTable) (host : String) : t.Grows (t.assign host).2 := by
  rcases t.assign_cases host with ⟨name, _, same⟩ | ⟨unknown, _⟩
  · rw [same]
    exact .refl
  · obtain ⟨k, free, same⟩ := assign_fresh unknown
    rw [same]
    exact Grows.refl.enter (.assigned k unknown free)

theorem grows_list (t : NameTable) (hosts : List String) : t.Grows (t.list hosts).2 := by
  induction hosts generalizing t with
  | nil => exact .refl
  | cons host hosts ih => exact (t.grows_assign host).trans (ih _)

theorem grows_resolve (t : NameTable) (hosts : List String) (name : FileName) :
    t.Grows (t.resolve hosts name).2 := by
  rcases t.resolve_cases hosts name with ⟨host, _, same⟩ | ⟨free, same⟩
  · rw [same]
    exact t.grows_list hosts
  · rw [same]
    exact (t.grows_list hosts).enter (.guessed free)

/-- A short name that stands for a host file goes on standing for it. -/
theorem Grows.hostName? (grows : t.Grows t') (known : t.hostName? name = some host) :
    t'.hostName? name = some host := by
  induction grows with
  | refl => exact known
  | enter _ entry ih =>
    have free := entry.free
    rw [hostName?_enter, if_neg]
    · exact ih
    · rintro rfl
      rw [ih] at free
      cases free

/-- The short name of a host file leads back to it, and every name leads to a
host file that has one. -/
structure Linked (t : NameTable) : Prop where
  back : ∀ host name, t.shortName? host = some name → t.hostName? name = some host
  named : ∀ host name, t.hostName? name = some host → t.shortName? host ≠ none

theorem linked_empty : empty.Linked where
  back _ _ none := by cases none
  named _ _ none := by cases none

theorem Linked.enter (linked : t.Linked) (free : t.hostName? name = none) :
    (t.enter host name).Linked where
  back other shown known := by
    rw [shortName?_enter] at known
    rw [hostName?_enter]
    by_cases same : other = host
    · rw [if_pos same] at known
      cases known
      rw [if_pos rfl, same]
    · rw [if_neg same] at known
      have there := linked.back other shown known
      rw [if_neg]
      · exact there
      · rintro rfl
        rw [free] at there
        cases there
  named other shown known := by
    rw [hostName?_enter] at known
    rw [shortName?_enter]
    by_cases same : other = host
    · rw [if_pos same]
      exact Option.some_ne_none name
    · rw [if_neg same]
      by_cases new : shown = name
      · rw [if_pos new] at known
        exact absurd (Option.some.inj known).symm same
      · rw [if_neg new] at known
        exact linked.named other shown known

theorem Linked.grows (linked : t.Linked) (grows : t.Grows t') : t'.Linked := by
  induction grows with
  | refl => exact linked
  | enter _ entry ih => exact ih.enter entry.free

/-- Different host files have different short names. -/
theorem Linked.shortName?_inj (linked : t.Linked) (known : t.shortName? host = some name)
    (known' : t.shortName? other = some name) : host = other :=
  Option.some.inj ((linked.back host name known).symm.trans (linked.back other name known'))

end Growth

section TwoWay

/-- What is known one way is known the other way. -/
def Inverse (t : NameTable) : Prop := ∀ host name, t.shortName? host = some name ↔
  t.hostName? name = some host

theorem inverse_empty : empty.Inverse := by
  intro host name
  constructor
  · intro known
    cases known
  · intro known
    cases known

theorem Linked.inverse_iff (linked : t.Linked) :
    t.Inverse ↔ ∀ name shown host,
    t.hostName? name = some host → t.hostName? shown = some host → name = shown := by
  constructor
  · intro inverse name shown host leads leads'
    have first := (inverse host name).2 leads
    have second := (inverse host shown).2 leads'
    exact Option.some.inj (first.symm.trans second)
  · intro single host name
    refine ⟨linked.back host name, fun leads => ?_⟩
    obtain ⟨shown, known⟩ := Option.ne_none_iff_exists'.1 (linked.named host name leads)
    rw [known, single name shown host leads (linked.back host shown known)]

/-- One more pair keeps the sides inverse just when its host file had no name before. -/
theorem Linked.inverse_enter_iff (linked : t.Linked) (free : t.hostName? name = none) :
    (t.enter host name).Inverse ↔ t.Inverse ∧ t.shortName? host = none := by
  have other {shown : FileName} {host' : String} (leads : t.hostName? shown = some host') :
      shown ≠ name := by
    rintro rfl
    rw [free] at leads
    cases leads
  rw [(linked.enter free).inverse_iff, linked.inverse_iff]
  constructor
  · intro single
    constructor
    · intro first second host' leads leads'
      refine single first second host' ?_ ?_
      · rwa [hostName?_enter, if_neg (other leads)]
      · rwa [hostName?_enter, if_neg (other leads')]
    · refine Option.eq_none_iff_forall_ne_some.2 fun shown known => ?_
      have leads := linked.back host shown known
      refine other leads (single shown name host ?_ ?_)
      · rwa [hostName?_enter, if_neg (other leads)]
      · rw [hostName?_enter, if_pos rfl]
  · rintro ⟨single, unknown⟩ first second host' leads leads'
    rw [hostName?_enter] at leads leads'
    by_cases new : first = name <;> by_cases new' : second = name
    · rw [new, new']
    · rw [if_pos new] at leads
      rw [if_neg new', ← Option.some.inj leads] at leads'
      exact (linked.named host second leads' unknown).elim
    · rw [if_pos new'] at leads'
      rw [if_neg new, ← Option.some.inj leads'] at leads
      exact (linked.named host first leads unknown).elim
    · rw [if_neg new] at leads
      rw [if_neg new'] at leads'
      exact single first second host' leads leads'

theorem Linked.inverse_assign_iff (linked : t.Linked) (host : String) :
    (t.assign host).2.Inverse ↔ t.Inverse := by
  rcases t.assign_cases host with ⟨name, _, same⟩ | ⟨unknown, _⟩
  · rw [same]
  · obtain ⟨k, free, same⟩ := assign_fresh unknown
    rw [same, linked.inverse_enter_iff free]
    exact and_iff_left unknown

theorem Linked.inverse_list_iff (linked : t.Linked) (hosts : List String) :
    (t.list hosts).2.Inverse ↔ t.Inverse := by
  induction hosts generalizing t with
  | nil => rfl
  | cons host hosts ih =>
    have first := linked.inverse_assign_iff host
    have rest := ih (linked.grows (t.grows_assign host))
    exact rest.trans first

/-- What can be asked of a table: a name for each file of a listing, a name for one host file, or,
after a listing, the host file of a name. -/
inductive Consultation where
  | listing (hosts : List String)
  | shortName (host : String)
  | hostName (hosts : List String) (name : FileName)

def consult (t : NameTable) : Consultation → NameTable
  | .listing hosts => (t.list hosts).2
  | .shortName host => (t.assign host).2
  | .hostName hosts name => (t.resolve hosts name).2

def consultAll (t : NameTable) (consultations : List Consultation) : NameTable :=
  consultations.foldl consult t

/-- A name is asked for that is nobody's, and the host file that it is then taken for has
a short name already. -/
def Usurps (t : NameTable) : Consultation → Prop
  | .hostName hosts name =>
    (t.list hosts).2.hostName? name = none ∧
      (t.list hosts).2.shortName? (Text.Utf8.decodeLossy name.toBytes) ≠ none
  | _ => False

theorem grows_consult (t : NameTable) (c : Consultation) : t.Grows (t.consult c) := by
  cases c with
  | listing hosts => exact t.grows_list hosts
  | shortName host => exact t.grows_assign host
  | hostName hosts name => exact t.grows_resolve hosts name

theorem consultAll_concat (t : NameTable) (consultations : List Consultation) (c : Consultation) :
    t.consultAll (consultations ++ [c]) = (t.consultAll consultations).consult c := by
  simp only [consultAll, List.foldl_append, List.foldl_cons, List.foldl_nil]

theorem linked_consultAll (consultations : List Consultation) :
    (empty.consultAll consultations).Linked := by
  induction consultations using List.reverseRecOn with
  | nil => exact linked_empty
  | append_singleton earlier c ih =>
    rw [consultAll_concat]
    exact ih.grows (grows_consult _ c)

theorem Linked.inverse_consult_iff (linked : t.Linked) (c : Consultation) :
    (t.consult c).Inverse ↔ t.Inverse ∧ ¬ t.Usurps c := by
  cases c with
  | listing hosts => exact (linked.inverse_list_iff hosts).trans (and_iff_left not_false).symm
  | shortName host => exact (linked.inverse_assign_iff host).trans (and_iff_left not_false).symm
  | hostName hosts name =>
    have listed := linked.inverse_list_iff hosts
    rw [consult, Usurps]
    rcases t.resolve_cases hosts name with ⟨host, known, same⟩ | ⟨free, same⟩
    · rw [same, listed, known]
      exact (and_iff_left fun usurped => by cases usurped.1).symm
    · rw [same, (linked.grows (t.grows_list hosts)).inverse_enter_iff free, listed]
      simp [free]

/-- The sides are inverse as long as nothing that was asked for has usurped a host file. -/
theorem inverse_consultAll_iff (consultations : List Consultation) :
    (empty.consultAll consultations).Inverse ↔
      ∀ earlier c, earlier ++ [c] <+: consultations →
        ¬ (empty.consultAll earlier).Usurps c := by
  induction consultations using List.reverseRecOn with
  | nil =>
    refine ⟨fun _ earlier c part => ?_, fun _ => inverse_empty⟩
    exact absurd (List.prefix_nil.1 part)
      (List.append_ne_nil_of_right_ne_nil _ (List.cons_ne_nil _ _))
  | append_singleton before last ih =>
    rw [consultAll_concat, (linked_consultAll before).inverse_consult_iff last, ih]
    constructor
    · rintro ⟨none, kept⟩ earlier c part
      rcases List.prefix_concat_iff.1 part with same | shorter
      · obtain ⟨rfl, ends⟩ := List.append_inj' same rfl
        cases ends
        exact kept
      · exact none earlier c shorter
    · intro none
      refine ⟨fun earlier c part => none earlier c (part.trans (List.prefix_append _ _)), ?_⟩
      exact none before last List.prefix_rfl

/-- Whatever is asked of a table, in whatever order: its two sides are inverse to each other exactly
if no name has been asked for that usurps a host file, and exactly if no two names stand for one
host file. Every host file that is known has a name that stands for it. -/
theorem inverse_iff_none_usurps (consultations : List Consultation) :
    let t := empty.consultAll consultations
    (t.Inverse ↔ ∀ earlier c,
        earlier ++ [c] <+: consultations → ¬ (empty.consultAll earlier).Usurps c) ∧
      (t.Inverse ↔
        ∀ name shown host, t.hostName? name = some host → t.hostName? shown = some host →
          name = shown) ∧
      ∀ host, t.shortName? host ≠ none ↔ ∃ name, t.hostName? name = some host := by
  intro t
  have linked : t.Linked := linked_consultAll consultations
  refine ⟨inverse_consultAll_iff consultations, linked.inverse_iff, fun host => ?_⟩
  constructor
  · intro known
    obtain ⟨name, same⟩ := Option.ne_none_iff_exists'.1 known
    exact ⟨name, linked.back host name same⟩
  · rintro ⟨name, leads⟩
    exact linked.named host name leads

def longHost : String := "LONGFILENAME.TXT"

/-- A host file with a long name is listed and then asked for by that name. -/
def longAsked : List Consultation :=
  [.listing [longHost], .hostName [longHost] (.parse (Text.Utf8.encode longHost))]

/-- It then stands under two short names, and only the long one is known as its own. -/
theorem long_name_stands_beside_short_one :
    (empty.consultAll longAsked).hostName? (.ofHostName longHost none) = some longHost ∧
      (empty.consultAll longAsked).hostName? (.parse (Text.Utf8.encode longHost)) =
        some longHost ∧
      FileName.ofHostName longHost none ≠ .parse (Text.Utf8.encode longHost) ∧
      ¬ (empty.consultAll longAsked).Inverse := by
  have short : (empty.consultAll longAsked).hostName? (.ofHostName longHost none) =
      some longHost := by
    decide +kernel
  have long : (empty.consultAll longAsked).hostName? (.parse (Text.Utf8.encode longHost)) =
      some longHost := by
    decide +kernel
  have apart : FileName.ofHostName longHost none ≠ .parse (Text.Utf8.encode longHost) := by
    decide +kernel
  refine ⟨short, long, apart, fun inverse => apart ?_⟩
  exact (linked_consultAll longAsked).inverse_iff.1 inverse _ _ _ short long

end TwoWay

end RealMode.Dos.NameTable
