import NftProbe.Proofs.Run.Mint
import NftProbe.Proofs.Abi.RoundTrip

/-!
# Checking the events of a mint

A mint's receipt reports one transfer from zero per token. The harness accepts these events when
they go one to one, in order, to the recipients the mint named, each id one more than the id
before it (`Consecutive`), and then returns their ids; any other list fails as a failed mint. The
check computes the id that should follow an event as that event's id plus one in 64 bits, so it
halts when an event with id `u64Max`, accepted with those before it, is followed by an event to its
recipient (`MintCheckOverflows`).

`verifyMinted_decides` states the three outcomes. Its proof follows the check's loop with the
previous id generalised (`verifyMintedFrom_decides`), where the overflow is the loop's own
condition (`OverflowsFrom`), and reads both conditions as statements about the whole lists
(`consecutive_none_iff`, `overflowsFrom_none_iff`).
-/

set_option autoImplicit false

namespace NftProbe.Run

open Contract Abi

/-- The events go one to one, in order, to the recipients, each id one more than the id before
it; the first one more than `previous`, when there is one. -/
def Consecutive : Option Nat → List TransferEvent → List Address → Prop
  | _, [], [] => True
  | previous, event :: events, recipient :: recipients =>
    event.target = recipient ∧ (∀ p, previous = some p → event.tokenId = p + 1) ∧
      Consecutive (some event.tokenId) events recipients
  | _, _, _ => False

/-- The check, run after an event with id `previous`, accepts events up to one whose id is
`u64Max` and then meets an event to its recipient, whose expected id it cannot compute. -/
def OverflowsFrom : Option Nat → List TransferEvent → List Address → Prop
  | previous, event :: events, recipient :: recipients =>
    event.target = recipient ∧ (previous = some u64Max ∨
      (∀ p, previous = some p → event.tokenId = p + 1) ∧
        OverflowsFrom (some event.tokenId) events recipients)
  | _, _, _ => False

/-- Checking `events` against `recipients` overflows: the lists have one length, the events up
to a position `n` pass the check, the one at `n` has id `u64Max`, and the next one goes to its
recipient. -/
def MintCheckOverflows (events : List TransferEvent) (recipients : List Address) : Prop :=
  events.length = recipients.length ∧ ∃ n,
    Consecutive none (events.take (n + 1)) (recipients.take (n + 1)) ∧
    (∃ last, events[n]? = some last ∧ last.tokenId = u64Max) ∧
    ∃ event recipient, events[n + 1]? = some event ∧ recipients[n + 1]? = some recipient ∧
      event.target = recipient

/-! ### The conditions as statements about whole lists -/

@[simp] theorem consecutive_cons_cons {previous : Option Nat} {event : TransferEvent}
    {events : List TransferEvent} {recipient : Address} {recipients : List Address} :
    Consecutive previous (event :: events) (recipient :: recipients) ↔
      event.target = recipient ∧ (∀ p, previous = some p → event.tokenId = p + 1) ∧
        Consecutive (some event.tokenId) events recipients :=
  Iff.rfl

/-- After an event with id `p`, the events pass when they pass on their own and the first of them
has id `p + 1`. -/
theorem consecutive_some_iff (p : Nat) (events : List TransferEvent) (recipients : List Address) :
    Consecutive (some p) events recipients ↔
      Consecutive none events recipients ∧ ∀ first ∈ events.head?, first.tokenId = p + 1 := by
  cases events with
  | nil => cases recipients <;> simp [Consecutive]
  | cons event events =>
    cases recipients with
    | nil => simp [Consecutive]
    | cons recipient recipients =>
      simp only [consecutive_cons_cons, Option.some.injEq, forall_eq', List.head?_cons,
        Option.mem_def, reduceCtorEq, IsEmpty.forall_iff, implies_true, true_and]
      tauto

/-- The check's condition, read over the whole lists: one event per recipient, each to its own
recipient, and ids that go up by one. -/
theorem consecutive_none_iff (events : List TransferEvent) (recipients : List Address) :
    Consecutive none events recipients ↔
      List.Forall₂ (fun event recipient => event.target = recipient) events recipients ∧
        List.IsChain (fun event next => next.tokenId = event.tokenId + 1) events := by
  induction events generalizing recipients with
  | nil => cases recipients <;> simp [Consecutive]
  | cons event events ih =>
    cases recipients with
    | nil => simp [Consecutive]
    | cons recipient recipients =>
      rw [consecutive_cons_cons, consecutive_some_iff, ih, List.forall₂_cons, List.isChain_cons]
      simp only [reduceCtorEq, IsEmpty.forall_iff, implies_true, true_and, Option.mem_def]
      constructor
      · rintro ⟨htarget, ⟨hrest, hchain⟩, hfirst⟩
        exact ⟨⟨htarget, hrest⟩, fun next hnext => hfirst next hnext, hchain⟩
      · rintro ⟨⟨htarget, hrest⟩, hfirst, hchain⟩
        exact ⟨htarget, ⟨hrest, hchain⟩, fun next hnext => hfirst next hnext⟩

/-- The overflow, read over the whole lists: it happens after an accepted prefix ending in an event
with id `u64Max`, or at once after an event with that id. -/
theorem overflowsFrom_iff (previous : Option Nat) (events : List TransferEvent)
    (recipients : List Address) :
    OverflowsFrom previous events recipients ↔
      (previous = some u64Max ∧ ∃ event recipient, events.head? = some event ∧
        recipients.head? = some recipient ∧ event.target = recipient) ∨
      ∃ n, Consecutive previous (events.take (n + 1)) (recipients.take (n + 1)) ∧
        (∃ last, events[n]? = some last ∧ last.tokenId = u64Max) ∧
        ∃ event recipient, events[n + 1]? = some event ∧ recipients[n + 1]? = some recipient ∧
          event.target = recipient := by
  induction events generalizing previous recipients with
  | nil => simp [OverflowsFrom]
  | cons event events ih =>
    cases recipients with
    | nil => simp [OverflowsFrom]
    | cons recipient recipients =>
      simp only [OverflowsFrom, ih]
      constructor
      · rintro ⟨htarget, hhead | ⟨hfollows, hnow | ⟨n, hprefix, hlast, hnext⟩⟩⟩
        · exact .inl ⟨hhead, event, recipient, rfl, rfl, htarget⟩
        · obtain ⟨hid, next, nextRecipient, hnext, hnextRecipient, hnextTarget⟩ := hnow
          refine .inr ⟨0, ?_, ⟨event, rfl, Option.some.inj hid⟩, next, nextRecipient, ?_, ?_,
            hnextTarget⟩
          · exact ⟨htarget, hfollows, trivial⟩
          · simpa [List.head?_eq_getElem?] using hnext
          · simpa [List.head?_eq_getElem?] using hnextRecipient
        · exact .inr ⟨n + 1, ⟨htarget, hfollows, hprefix⟩, by simpa using hlast,
            by simpa using hnext⟩
      · rintro (⟨hhead, next, nextRecipient, hnext, hnextRecipient, hnextTarget⟩ |
          ⟨n, hprefix, hlast, hnext⟩)
        · simp only [List.head?_cons, Option.some.injEq] at hnext hnextRecipient
          subst hnext hnextRecipient
          exact ⟨hnextTarget, .inl hhead⟩
        · cases n with
          | zero =>
            obtain ⟨htarget, hfollows, -⟩ := hprefix
            obtain ⟨last, hlast, hmax⟩ := hlast
            simp only [List.getElem?_cons_zero, Option.some.injEq] at hlast
            subst hlast
            refine ⟨htarget, .inr ⟨hfollows, .inl ⟨by rw [hmax], ?_⟩⟩⟩
            simpa [List.head?_eq_getElem?] using hnext
          | succ n =>
            obtain ⟨htarget, hfollows, hrest⟩ := hprefix
            exact ⟨htarget, .inr ⟨hfollows, .inr ⟨n, hrest, by simpa using hlast,
              by simpa using hnext⟩⟩⟩

theorem overflowsFrom_none_iff (events : List TransferEvent) (recipients : List Address)
    (hlength : events.length = recipients.length) :
    OverflowsFrom none events recipients ↔ MintCheckOverflows events recipients := by
  simp [overflowsFrom_iff, MintCheckOverflows, hlength]

/-! ### The check's loop -/

theorem checkedAdd_one {p : Nat} (h : p < u64Max) : U64.checkedAdd p 1 = .ok (p + 1) := by
  rw [U64.checkedAdd, if_pos (by omega)]

theorem checkedAdd_max : U64.checkedAdd u64Max 1 = .error .add := by
  rw [U64.checkedAdd, if_neg (by simp [u64Max, u64Bound])]

/-- The loop over events and recipients of one length, after an event with id `previous`, whose
ids fit 64 bits: it returns the ids of events that pass, halts where the check overflows, and
fails as a failed mint otherwise. -/
theorem verifyMintedFrom_decides (position : Nat) (previous : Option Nat)
    (events : List TransferEvent) (recipients : List Address)
    (hlength : events.length = recipients.length) (hids : ∀ e ∈ events, e.tokenId ≤ u64Max)
    (hprevious : ∀ p, previous = some p → p ≤ u64Max) :
    (Consecutive previous events recipients →
      (verifyMintedFrom position previous (events.zip recipients)).run =
        .ok (.ok (events.map (·.tokenId)))) ∧
    (OverflowsFrom previous events recipients →
      (verifyMintedFrom position previous (events.zip recipients)).run = .error .add) ∧
    (¬Consecutive previous events recipients → ¬OverflowsFrom previous events recipients →
      ∃ message, (verifyMintedFrom position previous (events.zip recipients)).run =
        .ok (.error (.mintFailed message))) := by
  induction events generalizing position previous recipients with
  | nil =>
    obtain rfl : recipients = [] := List.eq_nil_of_length_eq_zero hlength.symm
    exact ⟨fun _ => rfl, fun h => h.elim, fun h => absurd trivial h⟩
  | cons event events ih =>
    obtain ⟨recipient, recipients, rfl⟩ := List.exists_cons_of_length_eq_add_one hlength.symm
    have hid : event.tokenId ≤ u64Max := hids event List.mem_cons_self
    obtain ⟨hpass, hover, hfail⟩ := ih (position + 1) (some event.tokenId) recipients
      (by simpa using hlength) (fun e he => hids e (List.mem_cons_of_mem _ he))
      (fun p hp => by cases hp; exact hid)
    simp only [List.zip_cons_cons, verifyMintedFrom]
    by_cases htarget : event.target = recipient
    swap
    · refine ⟨fun h => absurd h.1 htarget, fun h => absurd h.1 htarget, fun _ _ => ?_⟩
      simp [htarget]
    simp only [htarget, ne_eq, not_true_eq_false, if_false]
    cases previous with
    | none =>
      refine ⟨fun h => ?_, fun h => ?_, fun hnot hnover => ?_⟩
      · rw [run_bind_of_ok (hpass h.2.2)]
        rfl
      · rcases h.2 with hnone | ⟨-, hrest⟩
        · cases hnone
        · rw [ExceptT.run_bind, hover hrest]
          rfl
      · have hnot' : ¬Consecutive (some event.tokenId) events recipients :=
          fun h => hnot ⟨htarget, (fun _ hp => by cases hp), h⟩
        have hnover' : ¬OverflowsFrom (some event.tokenId) events recipients :=
          fun h => hnover ⟨htarget, .inr ⟨(fun _ hp => by cases hp), h⟩⟩
        obtain ⟨message, hmessage⟩ := hfail hnot' hnover'
        exact ⟨message, by rw [ExceptT.run_bind, hmessage]; rfl⟩
    | some p =>
      have hp := hprevious p rfl
      by_cases hmax : p = u64Max
      · subst hmax
        refine ⟨fun h => absurd (h.2.1 _ rfl) (by omega), fun _ => ?_,
          fun _ hnover => absurd ⟨htarget, .inl rfl⟩ hnover⟩
        simp [ExceptT.run_bind, checkedAdd_max, liftM, monadLift, MonadLift.monadLift,
          ExceptT.lift, ExceptT.mk]
        rfl
      have hnext : (liftM (m := Except Overflow) (U64.checkedAdd p 1) :
          ExceptT HarnessError (Except Overflow) Nat).run = .ok (.ok (p + 1)) := by
        rw [checkedAdd_one (by omega)]
        rfl
      rw [run_bind_of_ok hnext]
      by_cases hfollows : event.tokenId = p + 1
      swap
      · refine ⟨fun h => absurd (h.2.1 p rfl) hfollows, fun h => ?_, fun _ _ => ?_⟩
        · rcases h.2 with hsome | ⟨hrest, -⟩
          · exact absurd (Option.some.inj hsome) hmax
          · exact absurd (hrest p rfl) hfollows
        · simp [hfollows]
      rw [if_neg (not_not.2 hfollows)]
      have hprev : ∀ q, some p = some q → event.tokenId = q + 1 := by
        rintro q ⟨⟩
        exact hfollows
      refine ⟨fun h => ?_, fun h => ?_, fun hnot hnover => ?_⟩
      · rw [run_bind_of_ok (hpass h.2.2)]
        rfl
      · rcases h.2 with hsome | ⟨-, hrest⟩
        · exact absurd (Option.some.inj hsome) hmax
        · rw [ExceptT.run_bind, hover hrest]
          rfl
      · have hnot' : ¬Consecutive (some event.tokenId) events recipients :=
          fun h => hnot ⟨htarget, hprev, h⟩
        have hnover' : ¬OverflowsFrom (some event.tokenId) events recipients :=
          fun h => hnover ⟨htarget, .inr ⟨hprev, h⟩⟩
        obtain ⟨message, hmessage⟩ := hfail hnot' hnover'
        exact ⟨message, by rw [ExceptT.run_bind, hmessage]; rfl⟩

/-! ### The check -/

/-- What the check of mint events against recipients answers, for events whose ids fit 64 bits.
Events that go one to one, in order, to the recipients, each id one more than the one before,
give their ids. Where the check overflows it halts. Every other list fails as a failed mint. -/
theorem verifyMinted_decides (events : List TransferEvent) (recipients : List Address)
    (hids : ∀ e ∈ events, e.tokenId ≤ u64Max) :
    (List.Forall₂ (fun event recipient => event.target = recipient) events recipients ∧
        List.IsChain (fun event next => next.tokenId = event.tokenId + 1) events →
      (verifyMinted events recipients).run = .ok (.ok (events.map (·.tokenId)))) ∧
    (MintCheckOverflows events recipients → (verifyMinted events recipients).run = .error .add) ∧
    (¬(List.Forall₂ (fun event recipient => event.target = recipient) events recipients ∧
        List.IsChain (fun event next => next.tokenId = event.tokenId + 1) events) →
      ¬MintCheckOverflows events recipients →
      ∃ message, (verifyMinted events recipients).run = .ok (.error (.mintFailed message))) := by
  unfold verifyMinted
  by_cases hlength : events.length = recipients.length
  · rw [if_neg (not_not.2 hlength), ← consecutive_none_iff,
      ← overflowsFrom_none_iff events recipients hlength]
    exact verifyMintedFrom_decides 0 none events recipients hlength hids (fun _ h => by cases h)
  · rw [if_pos hlength]
    exact ⟨fun h => absurd h.1.length_eq hlength, fun h => absurd h.1 hlength, fun _ _ => ⟨_, rfl⟩⟩

/-- The check accepts the events of a batch of three with ids `2, 3, 4` to their recipients. -/
theorem contiguous_mints_checked :
    (∀ e ∈ [(⟨Address.zero, Address.ofNatWrap 1, 2⟩ : TransferEvent),
        ⟨Address.zero, Address.ofNatWrap 2, 3⟩, ⟨Address.zero, Address.ofNatWrap 1, 4⟩],
        e.tokenId ≤ u64Max) ∧
      (verifyMinted [⟨Address.zero, Address.ofNatWrap 1, 2⟩, ⟨Address.zero, Address.ofNatWrap 2, 3⟩,
          ⟨Address.zero, Address.ofNatWrap 1, 4⟩]
        [Address.ofNatWrap 1, Address.ofNatWrap 2, Address.ofNatWrap 1]).run = .ok (.ok [2, 3, 4]) :=
  ⟨by decide, (verifyMinted_decides _ _ (by decide)).1
    ⟨.cons rfl (.cons rfl (.cons rfl .nil)), by simp⟩⟩

/-- An event with id `u64Max` followed by an event to its recipient halts the check, although the
second id does not follow the first: the check does not report a failed mint there. -/
theorem unchecked_successor_halts :
    ¬List.IsChain (fun (event next : TransferEvent) => next.tokenId = event.tokenId + 1)
        [⟨Address.zero, Address.ofNatWrap 1, u64Max⟩, ⟨Address.zero, Address.ofNatWrap 2, 0⟩] ∧
      (verifyMinted [⟨Address.zero, Address.ofNatWrap 1, u64Max⟩, ⟨Address.zero, Address.ofNatWrap 2, 0⟩]
        [Address.ofNatWrap 1, Address.ofNatWrap 2]).run = .error .add :=
  ⟨by simp, by decide⟩

end NftProbe.Run
