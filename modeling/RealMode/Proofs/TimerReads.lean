import Mathlib.Data.Fintype.Basic
import Mathlib.Data.List.DropRight
import Mathlib.Data.List.Induction
import Mathlib.Tactic.FinCases
import RealMode.Timer

/-!
# What a timer channel shows

What a read of a channel shows is given by the channel's own history since its last control write:
the reads in between and the counts at their moments. Reads and control writes of other channels,
and accesses that are refused, leave no trace in it.
-/

namespace RealMode.Timer

/-- What a program does with a timer. The count that a read sees belongs to its moment. -/
inductive Access (κ : Type) where
  | read (moment : κ) (port : UInt16)
  | write (port : UInt16) (value : UInt8)

variable {κ : Type} {count : κ → UInt16} {access : Access κ} {accesses : List (Access κ)}
  {c : Fin 3} {t : Timer}
  {channel : Channel} {mode : AccessMode} {counts : List UInt16} {now : UInt16}

section History

/-- An access that is refused leaves the timer as it is. -/
def afterAccess (count : κ → UInt16) (t : Timer) : Access κ → Timer
  | .read moment port =>
    match t.read (count moment) port with
    | .ok (_, t) => t
    | .error _ => t
  | .write port value =>
    match t.write port value with
    | .ok t => t
    | .error _ => t

/-- A new timer after these accesses. -/
def run (count : κ → UInt16) (accesses : List (Access κ)) : Timer :=
  accesses.foldl (afterAccess count) {}

theorem run_concat (count : κ → UInt16) (accesses : List (Access κ)) (access : Access κ) :
    run count (accesses ++ [access]) = afterAccess count (run count accesses) access := by
  simp only [run, List.foldl_append, List.foldl_cons, List.foldl_nil]

def portOf (c : Fin 3) : UInt16 := firstPort + UInt16.ofNat c

/-- The access mode that a control write sets for a channel, unless it is refused
or for another channel. -/
def Access.modeFor (c : Fin 3) : Access κ → Option AccessMode
  | .read _ _ => none
  | .write port value =>
    if port = controlPort ∧ value.toNat % 2 = 0 ∧
      value.toNat / 64 = c then some (.ofCode (value.toNat / 16 % 4)) else none

/-- The moment of a read of a channel. -/
def Access.momentFor (c : Fin 3) : Access κ → Option κ
  | .read moment port => if port = portOf c then some moment else none
  | .write _ _ => none

/-- The access mode of the last control write for a channel. -/
def modeAfter (accesses : List (Access κ)) (c : Fin 3) : AccessMode :=
  (accesses.filterMap (·.modeFor c)).getLastD .lowThenHigh

/-- The counts at the reads of a channel since the last control write for it. -/
def countsSince (count : κ → UInt16) (accesses : List (Access κ)) (c : Fin 3) : List UInt16 :=
  ((accesses.rtakeWhile fun access => (access.modeFor c).isNone).filterMap (·.momentFor c)).map
    count

theorem modeAfter_concat (accesses : List (Access κ)) (access : Access κ) (c : Fin 3) :
    modeAfter (accesses ++ [access]) c = (access.modeFor c).getD (modeAfter accesses c) := by
  rw [modeAfter, List.filterMap_append, modeAfter]
  cases set : access.modeFor c with
  | none => rw [List.filterMap_cons_none set, List.filterMap_nil, List.append_nil, Option.getD_none]
  | some mode =>
    rw [List.filterMap_cons_some set, List.filterMap_nil, List.getLastD_concat, Option.getD_some]

theorem countsSince_of_control (set : access.modeFor c = some mode) :
    countsSince count (accesses ++ [access]) c = [] := by
  rw [countsSince, List.rtakeWhile_concat_neg]
  · rfl
  · rw [set]
    exact Bool.false_ne_true

theorem modeFor_of_read {moment : κ} (seen : access.momentFor c = some moment) :
    access.modeFor c = none := by
  cases access with
  | read _ _ => rfl
  | write _ _ => cases seen

theorem countsSince_of_read {moment : κ} (seen : access.momentFor c = some moment) :
    countsSince count (accesses ++ [access]) c =
      countsSince count accesses c ++ [count moment] := by
  rw [countsSince, List.rtakeWhile_concat_pos, List.filterMap_append, List.filterMap_cons_some seen,
    List.map_append, countsSince]
  · rfl
  · rw [modeFor_of_read seen]
    rfl

/-- What is neither a control write for a channel nor a read of it leaves its history as it is. -/
theorem countsSince_of_apart (other : access.modeFor c = none)
    (unseen : access.momentFor c = none) :
    countsSince count (accesses ++ [access]) c = countsSince count accesses c := by
  rw [countsSince, List.rtakeWhile_concat_pos, List.filterMap_append,
    List.filterMap_cons_none unseen, List.filterMap_nil, List.append_nil, countsSince]
  rw [other]
  rfl

end History

section Own

/-- A control write for a channel that is not refused, or a read of the channel. -/
def Access.concerns (c : Fin 3) (access : Access κ) : Bool :=
  (access.modeFor c).isSome || (access.momentFor c).isSome

/-- A channel's history is one of the accesses that concern it. -/
theorem history_filter (count : κ → UInt16) (accesses : List (Access κ)) (c : Fin 3) :
    modeAfter (accesses.filter (·.concerns c)) c = modeAfter accesses c ∧
      countsSince count (accesses.filter (·.concerns c)) c = countsSince count accesses c := by
  induction accesses using List.reverseRecOn with
  | nil => exact ⟨rfl, rfl⟩
  | append_singleton before access ih =>
    obtain ⟨modes, counts⟩ := ih
    rw [List.filter_append, modeAfter_concat]
    cases set : access.modeFor c with
    | some mode =>
      have own : access.concerns c = true := by rw [Access.concerns, set]; rfl
      rw [List.filter_cons_of_pos own, List.filter_nil, modeAfter_concat, set,
        countsSince_of_control set, countsSince_of_control set]
      exact ⟨rfl, rfl⟩
    | none =>
      cases seen : access.momentFor c with
      | some moment =>
        have own : access.concerns c = true := by rw [Access.concerns, set, seen]; rfl
        rw [List.filter_cons_of_pos own, List.filter_nil, modeAfter_concat, set, modes,
          countsSince_of_read seen, countsSince_of_read seen, counts]
        exact ⟨rfl, rfl⟩
      | none =>
        have other : ¬ access.concerns c = true := by
          rw [Access.concerns, set, seen]; exact Bool.false_ne_true
        rw [List.filter_cons_of_neg other, List.filter_nil, List.append_nil, modes,
          countsSince_of_apart set seen, counts]
        exact ⟨rfl, rfl⟩

end Own

section Shown

/-- The half of a count that comes after `shown` halves. -/
def halfAfter (shown : Nat) (count : UInt16) : UInt8 :=
  if shown % 2 = 0 then lowByte count else highByte count

/-- What a channel shows `now`, if it saw these counts since its last control write. -/
def shown (mode : AccessMode) (counts : List UInt16) (now : UInt16) : UInt8 :=
  match mode with
  | .lowByte => RealMode.lowByte now
  | .highByte => RealMode.highByte now
  | .lowThenHigh => halfAfter counts.length now
  | .latch => halfAfter counts.length (counts.headD now)

/-- A channel that was set up with the mode and has seen these counts since. -/
structure Channel.Follows (channel : Channel) (mode : AccessMode)
    (counts : List UInt16) : Prop where
  access : channel.access = mode
  turns : mode = .lowThenHigh ∨ mode = .latch → channel.sequence = UInt32.ofNat counts.length
  latched : mode = .latch → channel.latched = counts.head?

theorem follows_new (operating : Nat) : Channel.Follows ⟨mode, operating, 0, none⟩ mode [] :=
  ⟨rfl, fun _ => rfl, fun _ => rfl⟩

/-- The parity of a number outlives its passage through a double word. -/
theorem half_of_sequence (turns : channel.sequence = UInt32.ofNat counts.length) (count : UInt16) :
    channel.half count = halfAfter counts.length count := by
  have even : channel.sequence % 2 = 0 ↔ counts.length % 2 = 0 := by
    rw [turns, ← UInt32.toNat_inj, UInt32.toNat_mod, UInt32.toNat_ofNat']
    have two : (2 : UInt32).toNat = 2 := rfl
    have zero : (0 : UInt32).toNat = 0 := rfl
    rw [two, zero]
    omega
  rw [Channel.half, halfAfter]
  simp only [even]

theorem Channel.Follows.read (follows : channel.Follows mode counts) (now : UInt16) :
    (channel.read now).1 = shown mode counts now ∧
      (channel.read now).2.Follows mode (counts ++ [now]) := by
  have next (turns : channel.sequence = UInt32.ofNat counts.length) :
      channel.sequence + 1 = UInt32.ofNat (counts ++ [now]).length := by
    rw [turns, List.length_append, List.length_singleton, UInt32.ofNat_add]
    rfl
  unfold Channel.read
  rw [follows.access]
  cases mode with
  | lowByte => exact ⟨rfl, follows.access, by simp, by simp⟩
  | highByte => exact ⟨rfl, follows.access, by simp, by simp⟩
  | lowThenHigh =>
    have turns := follows.turns (.inl rfl)
    exact ⟨half_of_sequence turns now, rfl, fun _ => next turns, by simp⟩
  | latch =>
    have turns := follows.turns (.inr rfl)
    have held : channel.latched.getD now = counts.headD now := by
      rw [follows.latched rfl, List.headD_eq_head?_getD]
    dsimp only
    rw [held]
    refine ⟨half_of_sequence turns _, rfl, fun _ => next turns, fun _ => ?_⟩
    cases counts with
    | nil => rfl
    | cons first rest => rfl

end Shown

section Runs

theorem channel?_withChannel (t : Timer) (c other : Fin 3) (channel : Channel) :
    (t.withChannel other channel).channel? c = if c = other then some channel
      else t.channel? c := by
  fin_cases c <;> fin_cases other <;> rfl

theorem portOf_inj {c other : Fin 3} (same : portOf c = portOf other) : c = other := by
  revert c other
  decide

theorem toNat_portOf (c : Fin 3) : (portOf c).toNat = firstPort.toNat + c := by
  fin_cases c <;> rfl

theorem read_portOf (known : t.channel? c = some channel) (now : UInt16) :
    t.read now (portOf c) = .ok ((channel.read now).1, t.withChannel c (channel.read now).2) := by
  have port := toNat_portOf c
  have high : ¬ portOf c < firstPort := by
    rw [UInt16.lt_iff_toNat_lt]
    omega
  have index : (portOf c).toNat - firstPort.toNat = c := by omega
  rw [Timer.read, if_neg high, index, known]

/-- A read is one of a channel, or it is refused. -/
theorem read_cases (t : Timer) (now port : UInt16) :
    (∃ c : Fin 3, port = portOf c) ∨
      (∀ c, port ≠ portOf c) ∧ ∃ fault, t.read now port = .error fault := by
  by_cases channel : ∃ c : Fin 3, port = portOf c
  · exact .inl channel
  refine .inr ⟨fun c same => channel ⟨c, same⟩, ?_⟩
  rw [Timer.read]
  by_cases low : port < firstPort
  · exact ⟨_, if_pos low⟩
  rw [if_neg low]
  rw [UInt16.lt_iff_toNat_lt] at low
  -- Behind the last channel there is no other one.
  have none : t.channel? (port.toNat - firstPort.toNat) = none := by
    match index : port.toNat - firstPort.toNat with
    | more + 3 => rfl
    | 0 => exact absurd ⟨0, UInt16.toNat_inj.1 (by rw [toNat_portOf]; omega)⟩ channel
    | 1 => exact absurd ⟨1, UInt16.toNat_inj.1 (by rw [toNat_portOf]; omega)⟩ channel
    | 2 => exact absurd ⟨2, UInt16.toNat_inj.1 (by rw [toNat_portOf]; omega)⟩ channel
  rw [none]
  exact ⟨_, rfl⟩

/-- A write sets up one channel, or it is refused. -/
theorem write_cases (t : Timer) (port : UInt16) (value : UInt8) :
    (∃ (other : Fin 3) (mode : AccessMode) (operating : Nat),
        (∀ c, (Access.write port value : Access κ).modeFor c = if c = other then some mode
          else none) ∧
          t.write port value = .ok (t.withChannel other ⟨mode, operating, 0, none⟩)) ∨
      (∀ c, (Access.write port value : Access κ).modeFor c = none) ∧
        ∃ fault, t.write port value = .error fault := by
  by_cases control : port = controlPort
  · rw [Timer.write, if_pos control, Timer.control]
    by_cases bcd : value.toNat % 2 = 1
    · refine .inr ⟨fun c => if_neg ?_, _, if_pos bcd⟩
      rintro ⟨_, even, _⟩
      omega
    by_cases readBack : value.toNat / 64 = 3
    · refine .inr ⟨fun c => if_neg ?_, _, by rw [if_neg bcd, if_pos readBack]⟩
      rintro ⟨_, _, selected⟩
      have bound := c.isLt
      omega
    · have selects : value.toNat / 64 < 3 := by
        have bound := value.toNat_lt
        omega
      refine .inl ⟨⟨value.toNat / 64, selects⟩, _, _,
        fun c => ?_, by rw [if_neg bcd, if_neg readBack]⟩
      have even : value.toNat % 2 = 0 := by omega
      have same : value.toNat / 64 = c ↔ c = ⟨value.toNat / 64, selects⟩ := by
        rw [Fin.ext_iff]
        exact eq_comm
      simp only [Access.modeFor, control, even, same, true_and]
  · refine .inr ⟨fun c => if_neg ?_, _, if_neg control⟩
    rintro ⟨same, _⟩
    exact control same

/-- Every channel follows its own history. -/
def Channels (count : κ → UInt16) (accesses : List (Access κ)) (t : Timer) : Prop :=
  ∀ c : Fin 3, ∃ channel, t.channel? c = some channel ∧
    channel.Follows (modeAfter accesses c) (countsSince count accesses c)

theorem channels_new : Channels count [] {} := by
  intro c
  refine ⟨{}, ?_, follows_new 3⟩
  fin_cases c <;> rfl

theorem Channel.Follows.apart
    (follows : channel.Follows (modeAfter accesses c) (countsSince count accesses c))
    (other : access.modeFor c = none) (unseen : access.momentFor c = none) :
    channel.Follows (modeAfter (accesses ++ [access]) c)
      (countsSince count (accesses ++ [access]) c) := by
  rw [modeAfter_concat, countsSince_of_apart other unseen, other]
  exact follows

theorem Channels.afterRead (channels : Channels count accesses t) (moment : κ) (port : UInt16) :
    Channels count (accesses ++ [.read moment port]) (t.afterAccess count (.read moment port)) := by
  intro c
  obtain ⟨channel, known, follows⟩ := channels c
  rw [Timer.afterAccess]
  rcases t.read_cases (count moment) port with ⟨other, rfl⟩ | ⟨elsewhere, fault, refused⟩
  · obtain ⟨channel', known', _⟩ := channels other
    rw [read_portOf known']
    dsimp only
    rw [channel?_withChannel]
    by_cases own : c = other
    · subst own
      cases known.symm.trans known'
      have seen : (Access.read moment (portOf c)).momentFor c = some moment := if_pos rfl
      rw [if_pos rfl, modeAfter_concat, countsSince_of_read seen, modeFor_of_read seen]
      exact ⟨_, rfl, (follows.read (count moment)).2⟩
    · rw [if_neg own]
      exact ⟨channel, known, follows.apart rfl (if_neg fun same => own (portOf_inj same).symm)⟩
  · rw [refused]
    exact ⟨channel, known, follows.apart rfl (if_neg (elsewhere c))⟩

theorem Channels.afterWrite (channels : Channels count accesses t) (port : UInt16) (value : UInt8) :
    Channels count (accesses ++ [.write port value]) (t.afterAccess count (.write port value)) := by
  intro c
  obtain ⟨channel, known, follows⟩ := channels c
  rw [Timer.afterAccess]
  rcases t.write_cases port value with ⟨other, mode, operating, sets, written⟩ |
    ⟨sets, fault, refused⟩
  · have set := sets c
    rw [written]
    dsimp only
    rw [channel?_withChannel]
    by_cases own : c = other
    · rw [if_pos own] at set
      rw [if_pos own, modeAfter_concat, set, countsSince_of_control set]
      exact ⟨_, rfl, follows_new operating⟩
    · rw [if_neg own] at set
      rw [if_neg own]
      exact ⟨channel, known, follows.apart set rfl⟩
  · rw [refused]
    exact ⟨channel, known, follows.apart (sets c) rfl⟩

/-- Each access keeps every channel in step with its own history. -/
theorem Channels.afterAccess (channels : Channels count accesses t) (access : Access κ) :
    Channels count (accesses ++ [access]) (t.afterAccess count access) := by
  cases access with
  | read moment port => exact channels.afterRead moment port
  | write port value => exact channels.afterWrite port value

theorem channels_run (count : κ → UInt16) (accesses : List (Access κ)) :
    Channels count accesses (run count accesses) := by
  induction accesses using List.reverseRecOn with
  | nil => exact channels_new
  | append_singleton before access ih =>
    rw [run_concat]
    exact ih.afterAccess access

/-- After any accesses to a new timer, a read of a channel shows what the channel's own history
says. Without all accesses that are not its own control writes and reads, it would show the same. -/
theorem read_shows_own_history (count : κ → UInt16) (accesses : List (Access κ)) (c : Fin 3)
    (moment : κ) :
    ((run count accesses).read (count moment) (portOf c)).map Prod.fst =
        .ok (shown (modeAfter accesses c) (countsSince count accesses c) (count moment)) ∧
      ((run count (accesses.filter (·.concerns c))).read (count moment) (portOf c)).map Prod.fst =
        ((run count accesses).read (count moment) (portOf c)).map Prod.fst := by
  have shows (accesses : List (Access κ)) :
      ((run count accesses).read (count moment) (portOf c)).map Prod.fst =
        .ok (shown (modeAfter accesses c) (countsSince count accesses c) (count moment)) := by
    obtain ⟨channel, known, follows⟩ := channels_run count accesses c
    rw [read_portOf known, ← (follows.read (count moment)).1]
    rfl
  obtain ⟨modes, counts⟩ := history_filter count accesses c
  refine ⟨shows accesses, ?_⟩
  rw [shows, shows, modes, counts]

/-- A latched channel keeps its count, whatever comes of refused control writes and another
channel. -/
example :
    ((run UInt16.ofNat
      [.write 0x43 0x00, .read 0x1234 0x40, .write 0x43 0x01, .read 0x5678 0x41]).read 0x9abc
      (portOf 0)).map Prod.fst = .ok 0x12 := by
  decide

end Runs

end RealMode.Timer
