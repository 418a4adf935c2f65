import Mathlib.Data.List.Induction
import RealMode.Machine.Board

/-!
# Who owns a port

Devices are attached one after another, and some are refused. The ranges on the bus are those
that were not, no two of them have a port in common, and none of them ever goes away, so that a
port which has found its device keeps it. A range that holds no port can be refused, and can be
the reason why another one is; among ranges that hold ports, a range is refused exactly if it
wants a port that is taken.
-/

namespace RealMode.PortBus

universe u

variable {δ : Type u} {bus : PortBus δ} {requests : List (PortRange δ)} {r s : PortRange δ}
  {port : UInt16} {d : δ}

theorem holds_iff : PortRange.holds r port = true ↔ r.first ≤ port ∧ port ≤ r.last := by
  rw [PortRange.holds, Bool.and_eq_true, decide_eq_true_iff, decide_eq_true_iff]

theorem meets_iff {first last : UInt16} : PortRange.meets r first last = true ↔
    first ≤ r.last ∧ r.first ≤ last := by
  rw [PortRange.meets, Bool.and_eq_true, decide_eq_true_iff, decide_eq_true_iff]

/-- Some port is in both ranges. -/
def Shares (r s : PortRange δ) : Prop :=
  ∃ port, PortRange.holds r port = true ∧ PortRange.holds s port = true

/-- Ranges that share a port meet, also where others that meet hold no port at all. -/
theorem Shares.meets (shares : Shares r s) : PortRange.meets r s.first s.last = true := by
  obtain ⟨port, held, wanted⟩ := shares
  obtain ⟨fromR, toR⟩ := holds_iff.1 held
  obtain ⟨fromS, toS⟩ := holds_iff.1 wanted
  exact meets_iff.2 ⟨UInt16.le_trans fromS toR, UInt16.le_trans fromR toS⟩

/-- Ranges that hold ports meet only if they share one, the later of their first ports. -/
theorem shares_of_meets (full : r.first ≤ r.last) (full' : s.first ≤ s.last)
    (meets : PortRange.meets r s.first s.last = true) : Shares r s := by
  obtain ⟨below, above⟩ := meets_iff.1 meets
  rcases UInt16.le_total r.first s.first with early | late
  · exact ⟨s.first, holds_iff.2 ⟨early, below⟩, holds_iff.2 ⟨UInt16.le_refl _, full'⟩⟩
  · exact ⟨r.first, holds_iff.2 ⟨UInt16.le_refl _, full⟩, holds_iff.2 ⟨late, above⟩⟩

section Attaching

/-- A range is refused if it meets one that is there, and nothing else can go wrong. -/
theorem attach_cases (bus : PortBus δ) (r : PortRange δ) :
    (∃ s ∈ bus.ranges, PortRange.meets s r.first r.last = true) ∧
        bus.attach r.first r.last r.device = .error (.portConflict r.first r.last) ∨
      (∀ s ∈ bus.ranges, PortRange.meets s r.first r.last = false) ∧
        bus.attach r.first r.last r.device = .ok ⟨bus.ranges ++ [r]⟩ := by
  rw [attach]
  by_cases taken : bus.ranges.any (PortRange.meets · r.first r.last) = true
  · exact .inl ⟨List.any_eq_true.1 taken, if_pos taken⟩
  · refine .inr ⟨fun s there => ?_, if_neg taken⟩
    rw [Bool.not_eq_true, List.any_eq_false] at taken
    exact Bool.eq_false_iff.2 (taken s there)

/-- What attaching makes of a bus; a refusal makes nothing of it. -/
def attached (bus : PortBus δ) (r : PortRange δ) : PortBus δ :=
  match bus.attach r.first r.last r.device with
  | .ok bus => bus
  | .error _ => bus

/-- The bus after these requests. -/
def ofRequests (requests : List (PortRange δ)) : PortBus δ := requests.foldl attached .empty

theorem ofRequests_concat (requests : List (PortRange δ)) (r : PortRange δ) :
    ofRequests (requests ++ [r]) = (ofRequests requests).attached r := by
  rw [ofRequests, List.foldl_append, List.foldl_cons, List.foldl_nil, ofRequests]

theorem ofRequests_of_refused {e : Fault}
    (refused : (ofRequests requests).attach r.first r.last r.device = .error e) :
    ofRequests (requests ++ [r]) = ofRequests requests := by
  rw [ofRequests_concat, attached, refused]

/-- The range was asked for, and was not refused when its turn came. -/
def Accepted (requests : List (PortRange δ)) (r : PortRange δ) : Prop :=
  ∃ earlier later bus, requests = earlier ++ r :: later ∧
    (ofRequests earlier).attach r.first r.last r.device = .ok bus

theorem accepted_concat : Accepted (requests ++ [r]) s ↔
    Accepted requests s ∨
    s = r ∧ ∃ bus, (ofRequests requests).attach r.first r.last r.device = .ok bus := by
  constructor
  · rintro ⟨earlier, later, bus, split, accepted⟩
    rcases List.eq_nil_or_concat later with rfl | ⟨later, last, rfl⟩
    · obtain ⟨rfl, same⟩ := List.append_inj' split rfl
      obtain rfl := List.head_eq_of_cons_eq same
      exact .inr ⟨rfl, bus, accepted⟩
    · rw [List.concat_eq_append, ← List.cons_append, ← List.append_assoc] at split
      obtain ⟨rfl, -⟩ := List.append_inj' split rfl
      exact .inl ⟨earlier, later, bus, rfl, accepted⟩
  · rintro (⟨earlier, later, bus, rfl, accepted⟩ | ⟨rfl, bus, accepted⟩)
    · exact ⟨earlier, later ++ [r], bus, by rw [List.append_assoc, List.cons_append], accepted⟩
    · exact ⟨requests, [], bus, rfl, accepted⟩

/-- The ranges on the bus are the accepted ones. -/
theorem mem_ranges_iff : s ∈ (ofRequests requests).ranges ↔ Accepted requests s := by
  induction requests using List.reverseRecOn with
  | nil =>
    constructor
    · intro there
      cases there
    · rintro ⟨earlier, later, bus, split, -⟩
      cases earlier <;> cases split
  | append_singleton requests r ih =>
    rw [ofRequests_concat, accepted_concat, ← ih, attached]
    rcases attach_cases (ofRequests requests) r with ⟨-, refused⟩ | ⟨-, added⟩
    · simp only [refused, reduceCtorEq, exists_false, and_false, or_false]
    · simp only [added, List.mem_append, List.mem_singleton, Except.ok.injEq, exists_eq', and_true]

end Attaching

section Owners

/-- No two ranges share a port. -/
def Exclusive (bus : PortBus δ) : Prop := bus.ranges.Pairwise fun r s => ¬ Shares r s

theorem Exclusive.attached (exclusive : bus.Exclusive) (r : PortRange δ) :
    (bus.attached r).Exclusive := by
  rw [PortBus.attached]
  rcases attach_cases bus r with ⟨-, refused⟩ | ⟨apart, added⟩
  · rw [refused]
    exact exclusive
  · rw [added]
    refine List.pairwise_append.2 ⟨exclusive, List.pairwise_singleton _ r,
      fun s there t last shares => ?_⟩
    obtain rfl := List.mem_singleton.1 last
    exact Bool.false_ne_true ((apart s there).symm.trans shares.meets)

theorem exclusive_ofRequests (requests : List (PortRange δ)) :
    (ofRequests requests).Exclusive := by
  induction requests using List.reverseRecOn with
  | nil => exact .nil
  | append_singleton requests r ih =>
    rw [ofRequests_concat]
    exact ih.attached r

/-- Of ranges that share no port, one at most holds a given port. -/
theorem countP_holds_le_one {ranges : List (PortRange δ)}
    (apart : ranges.Pairwise fun r s => ¬ Shares r s) (port : UInt16) :
    ranges.countP (PortRange.holds · port) ≤ 1 := by
  induction apart with
  | nil => exact Nat.zero_le 1
  | @cons r ranges alone _ ih =>
    by_cases held : PortRange.holds r port = true
    · have others : ranges.countP (PortRange.holds · port) = 0 :=
        List.countP_eq_zero.2 fun s there also => alone s there ⟨port, held, also⟩
      have counted := List.countP_cons_of_pos (p := (PortRange.holds · port)) (l := ranges) held
      omega
    · rwa [List.countP_cons_of_neg (p := (PortRange.holds · port)) held]

theorem device_eq_ok_iff (exclusive : bus.Exclusive) :
    bus.device port = .ok d ↔
    ∃ r ∈ bus.ranges, PortRange.holds r port = true ∧ r.device = d := by
  rw [PortBus.device]
  constructor
  · intro answers
    split at answers
    · cases answers
    · next r first =>
      cases answers
      exact ⟨r, List.mem_of_find?_eq_some first,
        List.find?_some (p := (PortRange.holds · port)) first, rfl⟩
  · rintro ⟨r, there, held, rfl⟩
    obtain ⟨earlier, later, split⟩ := List.append_of_mem there
    -- No earlier range holds the port, as it would share it with this one.
    have apart : ∀ s ∈ earlier, PortRange.holds s port = false := by
      intro s before
      rw [Exclusive, split, List.pairwise_append] at exclusive
      exact Bool.eq_false_iff.2 fun also =>
        exclusive.2.2 s before r List.mem_cons_self ⟨port, also, held⟩
    have first : bus.ranges.find? (PortRange.holds · port) = some r := by
      rw [split, List.find?_append,
        List.find?_eq_none.2 fun s before => Bool.eq_false_iff.1 (apart s before)]
      exact List.find?_cons_of_pos (p := (PortRange.holds · port)) held
    rw [first]

theorem device_eq_error (bus : PortBus δ)
    (free : ∀ r ∈ bus.ranges, PortRange.holds r port = false) :
    bus.device port = .error (.unhandledPort port) := by
  rw [PortBus.device, List.find?_eq_none.2 fun r there => Bool.eq_false_iff.1 (free r there)]

theorem device_attached (answers : bus.device port = .ok d) (r : PortRange δ) :
    (bus.attached r).device port = .ok d := by
  rw [PortBus.attached]
  rcases attach_cases bus r with ⟨-, refused⟩ | ⟨-, added⟩
  · rwa [refused]
  · rw [PortBus.device] at answers ⊢
    rw [added]
    dsimp only
    rw [List.find?_append]
    split at answers
    · cases answers
    · next s first =>
      rw [first]
      exact answers

/-- Later requests do not change the device of a port. -/
theorem device_ofRequests_append (answers : (ofRequests requests).device port = .ok d)
    (more : List (PortRange δ)) :
    (ofRequests (requests ++ more)).device port = .ok d := by
  induction more using List.reverseRecOn with
  | nil => rwa [List.append_nil]
  | append_singleton more r ih =>
    rw [← List.append_assoc, ofRequests_concat]
    exact device_attached ih r

theorem attach_eq_error_iff (full : ∀ s ∈ bus.ranges, s.first ≤ s.last)
    (some : r.first ≤ r.last) :
    bus.attach r.first r.last r.device = .error (.portConflict r.first r.last) ↔
    ∃ s ∈ bus.ranges, Shares s r := by
  rcases attach_cases bus r with ⟨⟨s, there, meets⟩, refused⟩ | ⟨apart, added⟩
  · exact iff_of_true refused ⟨s, there, shares_of_meets (full s there) some meets⟩
  · rw [added]
    refine iff_of_false (fun refused => by cases refused) fun ⟨s, there, shares⟩ => ?_
    exact Bool.false_ne_true ((apart s there).symm.trans shares.meets)

end Owners

/-- Whatever devices are asked for, and whichever are refused: a port is in one attached range at
most, and the device of that range answers for it from then on. A refusal changes nothing, and a
port that is in no attached range is a fault. If all ranges hold ports, then a range is refused
exactly if it shares a port with an attached one. -/
theorem ports_owned_once {σ : Type} (requests : List (PortRange (Device σ))) :
    let bus := ofRequests requests
    (∀ port, bus.ranges.countP (PortRange.holds · port) ≤ 1 ∧
      ∀ d, bus.device port = .ok d ↔
        ∃ r, Accepted requests r ∧ PortRange.holds r port = true ∧ r.device = d) ∧
    (∀ port d, bus.device port = .ok d →
      ∀ more, (ofRequests (requests ++ more)).device port = .ok d) ∧
    (∀ r e, bus.attach r.first r.last r.device = .error e →
      ofRequests (requests ++ [r]) = bus) ∧
    (∀ port, (∀ r, Accepted requests r → PortRange.holds r port = false) →
      ∀ (board : Board σ) (host : σ), board.ports = bus →
        board.readPort port host = .error (.unhandledPort port) host ∧
        ∀ value, board.writePort port value host = .error (.unhandledPort port) host) ∧
    ((∀ r, Accepted requests r → r.first ≤ r.last) →
      ∀ r : PortRange (Device σ), r.first ≤ r.last →
      (bus.attach r.first r.last r.device = .error (.portConflict r.first r.last) ↔
        ∃ s, Accepted requests s ∧ Shares s r)) := by
  intro bus
  have exclusive : bus.Exclusive := exclusive_ofRequests requests
  refine ⟨fun port => ⟨countP_holds_le_one exclusive port, fun d => ?_⟩,
    fun port d answers more => device_ofRequests_append answers more,
    fun r e refused => ofRequests_of_refused refused,
    fun port free board host wired => ?_, fun full r some => ?_⟩
  · simp only [device_eq_ok_iff exclusive, bus, mem_ranges_iff]
  · have missing : board.ports.device port = .error (.unhandledPort port) := by
      rw [wired]
      exact device_eq_error bus fun r there => free r (mem_ranges_iff.1 there)
    refine ⟨?_, fun value => ?_⟩
    · rw [Board.readPort, missing]
      rfl
    · rw [Board.writePort, missing]
      rfl
  · rw [attach_eq_error_iff (fun s there => full s (mem_ranges_iff.1 there)) some]
    simp only [mem_ranges_iff]

/-- A device that shows its own number. -/
def numbered (n : UInt8) : Device Unit := ⟨fun _ => pure n, fun _ _ => pure ()⟩

/-- The second and third range overlap the first one at its end and all around it; the
fourth begins behind it. -/
def fourRanges : List (PortRange (Device Unit)) :=
  [⟨0x40, 0x43, numbered 1⟩, ⟨0x43, 0x44, numbered 2⟩, ⟨0x30, 0x50, numbered 3⟩,
   ⟨0x44, 0x44, numbered 4⟩]

/-- Two of four are attached. The port behind them is free; a range that reaches back from it to the
last one is refused, and leaves the devices as they are. -/
theorem two_of_four_attached :
    let later : PortRange (Device Unit) := ⟨0x44, 0x45, numbered 5⟩
    (ofRequests fourRanges).ranges =
      [⟨0x40, 0x43, numbered 1⟩, ⟨0x44, 0x44, numbered 4⟩] ∧
    (ofRequests (fourRanges ++ [later])).device 0x43 = .ok (numbered 1) ∧
    { Board.bare with ports := ofRequests fourRanges }.readPort 0x45 () =
      .error (.unhandledPort 0x45) () ∧
    (ofRequests fourRanges).attach 0x44 0x45 (numbered 5) = .error (.portConflict 0x44 0x45) ∧
    ofRequests (fourRanges ++ [later]) = ofRequests fourRanges := by
  intro later
  obtain ⟨owned, lasting, unchanged, free, conflicts⟩ := ports_owned_once fourRanges
  have ranges : (ofRequests fourRanges).ranges =
      [⟨0x40, 0x43, numbered 1⟩, ⟨0x44, 0x44, numbered 4⟩] := rfl
  have attached {r : PortRange (Device Unit)} (accepted : Accepted fourRanges r) :
      r = ⟨0x40, 0x43, numbered 1⟩ ∨ r = ⟨0x44, 0x44, numbered 4⟩ := by
    have there := mem_ranges_iff.2 accepted
    simpa only [ranges, List.mem_cons, List.not_mem_nil, or_false] using there
  have first : Accepted fourRanges ⟨0x40, 0x43, numbered 1⟩ :=
    mem_ranges_iff.1 (ranges ▸ List.mem_cons_self)
  have last : Accepted fourRanges ⟨0x44, 0x44, numbered 4⟩ :=
    mem_ranges_iff.1 (ranges ▸ List.mem_cons_of_mem _ List.mem_cons_self)
  have unheld (r : PortRange (Device Unit)) (accepted : Accepted fourRanges r) :
      PortRange.holds r 0x45 = false := by
    rcases attached accepted with rfl | rfl <;> rfl
  have full (r : PortRange (Device Unit)) (accepted : Accepted fourRanges r) :
      r.first ≤ r.last := by
    rcases attached accepted with rfl | rfl <;> decide
  have answers : (ofRequests fourRanges).device 0x43 = .ok (numbered 1) :=
    ((owned 0x43).2 _).2 ⟨_, first, rfl, rfl⟩
  have refused : (ofRequests fourRanges).attach 0x44 0x45 (numbered 5) =
      .error (.portConflict 0x44 0x45) :=
    (conflicts full later (by decide)).2 ⟨_, last, 0x44, rfl, rfl⟩
  exact ⟨ranges, lasting 0x43 _ answers [later], (free 0x45 unheld _ () rfl).1, refused,
    unchanged later _ refused⟩

end RealMode.PortBus
