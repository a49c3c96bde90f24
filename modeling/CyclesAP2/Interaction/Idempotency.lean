import Mathlib

/-!
# Servers with idempotency keys

A server that keeps, for each key, the first request recorded under it and the
answer it gave.  An equal request replays that answer; another request under the
same key is turned down.  A failed request may leave no record.

`Protocol` collects what such a server may do with a request it has not seen;
`Serves` is its behaviour as a relation, and `handle` one that is a function.
-/

namespace Interaction

/-- The records of the server, and the rest of its state. -/
structure Ledger (κ Q R W : Type) where
  recorded : κ → Option (Q × R)
  world : W

/-- How a server treats its requests: `applies` what an unseen one may be answered and
    do, `refuses` the answers to a failed one, which leave no record, `mismatch` the
    answers to another request under a seen key. -/
structure Protocol (κ Q R W : Type) where
  key : Q → κ
  applies : W → Q → R → W → Prop
  refuses : Q → R → Prop
  mismatch : R → Prop

namespace Protocol

variable {κ Q R W : Type} [DecidableEq κ]

def record (recorded : κ → Option (Q × R)) (k : κ) (q : Q) (r : R) : κ → Option (Q × R) :=
  Function.update recorded k (some (q, r))

inductive Serves (protocol : Protocol κ Q R W) :
    Ledger κ Q R W → Q → R → Ledger κ Q R W → Prop where
  | first {l : Ledger κ Q R W} {q : Q} {r : R} {world : W}
      (hunseen : l.recorded (protocol.key q) = none)
      (happlies : protocol.applies l.world q r world) :
      Serves protocol l q r ⟨record l.recorded (protocol.key q) q r, world⟩
  | refused {l : Ledger κ Q R W} {q : Q} {r : R}
      (hunseen : l.recorded (protocol.key q) = none) (hrefuses : protocol.refuses q r) :
      Serves protocol l q r l
  | replay {l : Ledger κ Q R W} {q : Q} {r : R}
      (hseen : l.recorded (protocol.key q) = some (q, r)) :
      Serves protocol l q r l
  | mismatch {l : Ledger κ Q R W} {q q' : Q} {r r' : R}
      (hseen : l.recorded (protocol.key q) = some (q', r')) (hne : q' ≠ q)
      (hmismatch : protocol.mismatch r) :
      Serves protocol l q r l

section Records

variable {protocol : Protocol κ Q R W} {l l' : Ledger κ Q R W} {q : Q} {r : R}

theorem record_self (recorded : κ → Option (Q × R)) (k : κ) (q : Q) (r : R) :
    record recorded k q r k = some (q, r) :=
  Function.update_self ..

theorem record_of_ne (recorded : κ → Option (Q × R)) {k k' : κ} (q : Q) (r : R) (h : k' ≠ k) :
    record recorded k q r k' = recorded k' :=
  Function.update_of_ne h ..

/-- **A record is never changed.** -/
theorem Serves.recorded_mono (h : protocol.Serves l q r l') {k : κ} {entry : Q × R}
    (hentry : l.recorded k = some entry) : l'.recorded k = some entry := by
  cases h with
  | first hunseen happlies =>
    have hne : k ≠ protocol.key q := by
      intro hk
      rw [hk, hunseen] at hentry
      simp at hentry
    rw [← hentry]
    exact record_of_ne _ _ _ hne
  | refused hunseen hrefuses => exact hentry
  | replay hseen => exact hentry
  | mismatch hseen hne hmismatch => exact hentry

/-- An answer is the recorded one, or the request was turned down. -/
theorem Serves.recorded_or (h : protocol.Serves l q r l') :
    l'.recorded (protocol.key q) = some (q, r) ∨ protocol.refuses q r ∨ protocol.mismatch r := by
  cases h with
  | first hunseen happlies => exact Or.inl (record_self ..)
  | refused hunseen hrefuses => exact Or.inr (Or.inl hrefuses)
  | replay hseen => exact Or.inl hseen
  | mismatch hseen hne hmismatch => exact Or.inr (Or.inr hmismatch)

end Records

/-! ### A server that is a function -/

/-- Answer an unseen request with `fresh`, and a mismatch with `clash`. -/
def handle [DecidableEq Q] (protocol : Protocol κ Q R W) (fresh : W → Q → R × W) (clash : R)
    (l : Ledger κ Q R W) (q : Q) : R × Ledger κ Q R W :=
  match l.recorded (protocol.key q) with
  | none =>
    let (r, world) := fresh l.world q
    (r, ⟨record l.recorded (protocol.key q) q r, world⟩)
  | some (q', r) => if q' = q then (r, l) else (clash, l)

section Handle

variable [DecidableEq Q] {protocol : Protocol κ Q R W} {fresh : W → Q → R × W} {clash : R}
  {l : Ledger κ Q R W} {q : Q}

theorem handle_unseen (h : l.recorded (protocol.key q) = none) :
    protocol.handle fresh clash l q = ((fresh l.world q).1,
      ⟨record l.recorded (protocol.key q) q (fresh l.world q).1, (fresh l.world q).2⟩) := by
  simp only [handle, h]

theorem handle_seen {r : R} (h : l.recorded (protocol.key q) = some (q, r)) :
    protocol.handle fresh clash l q = (r, l) := by
  simp only [handle, h, if_true]

theorem handle_clash {q' : Q} {r : R} (h : l.recorded (protocol.key q) = some (q', r))
    (hne : q' ≠ q) : protocol.handle fresh clash l q = (clash, l) := by
  simp only [handle, h, if_neg hne]

theorem handle_recorded_of_ne {k : κ} (h : k ≠ protocol.key q) :
    (protocol.handle fresh clash l q).2.recorded k = l.recorded k := by
  rcases hrecorded : l.recorded (protocol.key q) with _ | ⟨q', r⟩
  · rw [handle_unseen hrecorded]
    exact record_of_ne _ _ _ h
  · by_cases heq : q' = q
    · subst heq
      rw [handle_seen hrecorded]
    · rw [handle_clash hrecorded heq]

/-- The first request under a key stays its record. -/
theorem handle_recorded_self :
    ∃ r, (protocol.handle fresh clash l q).2.recorded (protocol.key q) =
      ((l.recorded (protocol.key q)).or (some (q, r))) := by
  rcases hrecorded : l.recorded (protocol.key q) with _ | ⟨q', r⟩
  · rw [handle_unseen hrecorded]
    exact ⟨_, record_self ..⟩
  · by_cases heq : q' = q
    · subst heq
      rw [handle_seen hrecorded]
      exact ⟨r, hrecorded⟩
    · rw [handle_clash hrecorded heq]
      exact ⟨r, hrecorded⟩

/-- Only a fresh answer changes anything but the records. -/
theorem handle_world :
    (protocol.handle fresh clash l q).2.world = l.world ∨
      (protocol.handle fresh clash l q).2.world = (fresh l.world q).2 := by
  rcases hrecorded : l.recorded (protocol.key q) with _ | ⟨q', r⟩
  · rw [handle_unseen hrecorded]
    exact Or.inr rfl
  · by_cases heq : q' = q
    · subst heq
      rw [handle_seen hrecorded]
      exact Or.inl rfl
    · rw [handle_clash hrecorded heq]
      exact Or.inl rfl

theorem handle_recorded_mono {k : κ} {entry : Q × R} (h : l.recorded k = some entry) :
    (protocol.handle fresh clash l q).2.recorded k = some entry := by
  by_cases hk : k = protocol.key q
  · subst hk
    obtain ⟨r, hself⟩ : ∃ r, (protocol.handle fresh clash l q).2.recorded (protocol.key q) =
        (l.recorded (protocol.key q)).or (some (q, r)) := handle_recorded_self
    rw [hself, h]
    rfl
  · rw [handle_recorded_of_ne hk]
    exact h

/-- A new record holds a fresh answer. -/
theorem handle_recorded_fresh {k : κ} {entry : Q × R}
    (h : (protocol.handle fresh clash l q).2.recorded k = some entry) :
    l.recorded k = some entry ∨ entry = (q, (fresh l.world q).1) := by
  rcases hrecorded : l.recorded (protocol.key q) with _ | ⟨q', r⟩
  · by_cases hk : k = protocol.key q
    · subst hk
      rw [handle_unseen hrecorded] at h
      dsimp only at h
      rw [record_self] at h
      exact Or.inr (Option.some.inj h).symm
    · rw [handle_recorded_of_ne hk] at h
      exact Or.inl h
  · by_cases heq : q' = q
    · subst heq
      rw [handle_seen hrecorded] at h
      exact Or.inl h
    · rw [handle_clash hrecorded heq] at h
      exact Or.inl h

/-- An answer is recorded for this request, or is the clash with another one. -/
theorem handle_answer :
    (protocol.handle fresh clash l q).2.recorded (protocol.key q) =
        some (q, (protocol.handle fresh clash l q).1) ∨
      (protocol.handle fresh clash l q).1 = clash ∧
        ∃ q' r, (protocol.handle fresh clash l q).2.recorded (protocol.key q) = some (q', r) ∧
          q' ≠ q := by
  rcases hrecorded : l.recorded (protocol.key q) with _ | ⟨q', r⟩
  · rw [handle_unseen hrecorded]
    exact Or.inl (record_self ..)
  · by_cases heq : q' = q
    · subst heq
      rw [handle_seen hrecorded]
      exact Or.inl hrecorded
    · rw [handle_clash hrecorded heq]
      exact Or.inr ⟨rfl, q', r, hrecorded, heq⟩

/-- Two servers that agree on a key, and outside their records, serve a request
    under it alike. -/
theorem handle_congr {l' : Ledger κ Q R W}
    (hrecorded : l.recorded (protocol.key q) = l'.recorded (protocol.key q))
    (hworld : l.world = l'.world) :
    (protocol.handle fresh clash l q).1 = (protocol.handle fresh clash l' q).1 ∧
      (protocol.handle fresh clash l q).2.world = (protocol.handle fresh clash l' q).2.world ∧
      (protocol.handle fresh clash l q).2.recorded (protocol.key q) =
        (protocol.handle fresh clash l' q).2.recorded (protocol.key q) := by
  rcases hl : l.recorded (protocol.key q) with _ | ⟨q', r⟩
  · have hl' := hrecorded.symm.trans hl
    rw [handle_unseen hl, handle_unseen hl', hworld]
    exact ⟨rfl, rfl, (record_self ..).trans (record_self ..).symm⟩
  · have hl' := hrecorded.symm.trans hl
    by_cases heq : q' = q
    · subst heq
      rw [handle_seen hl, handle_seen hl']
      exact ⟨rfl, hworld, hrecorded⟩
    · rw [handle_clash hl heq, handle_clash hl' heq]
      exact ⟨rfl, hworld, hrecorded⟩

theorem handle_serves (hfresh : ∀ w q, protocol.applies w q (fresh w q).1 (fresh w q).2)
    (hclash : protocol.mismatch clash) :
    protocol.Serves l q (protocol.handle fresh clash l q).1
      (protocol.handle fresh clash l q).2 := by
  rcases h : l.recorded (protocol.key q) with _ | ⟨q', r⟩
  · rw [handle_unseen h]
    exact .first h (hfresh l.world q)
  · by_cases heq : q' = q
    · subst heq
      rw [handle_seen h]
      exact .replay h
    · rw [handle_clash h heq]
      exact .mismatch h heq hclash

end Handle

end Protocol

end Interaction
