import CyclesAP2.Interaction.Network

/-!
# Things that can be used once

A one-shot thing is claimed, and then either spent on some value or returned.  It never
changes hands, and what was spent or returned stays so.  `Step` is told which claims and
which spendings are allowed, and a run from an unclaimed thing leads to an allowed state
only (`Run.licensed`).

A step of a network is a service of some request that a program is about to make, or it
leaves the server alone (`Network.Step.server_cases`); this is what a refinement of a
network to a one-shot thing goes by.
-/

namespace Interaction

inductive OneShot (C V : Type) where
  | unclaimed
  | held (claim : C)
  | spent (claim : C) (value : V)
  | returned (claim : C)
deriving DecidableEq

namespace OneShot

variable {C V : Type} {mayClaim : C → Prop} {maySpend : C → V → Prop} {t t' : OneShot C V}

def claim : OneShot C V → Option C
  | .unclaimed => none
  | .held claim => some claim
  | .spent claim _ => some claim
  | .returned claim => some claim

def spending : OneShot C V → Option V
  | .spent _ value => some value
  | _ => none

inductive Step (mayClaim : C → Prop) (maySpend : C → V → Prop) :
    OneShot C V → OneShot C V → Prop where
  | claim {claim : C} (h : mayClaim claim) : Step mayClaim maySpend .unclaimed (.held claim)
  | spend {claim : C} {value : V} (h : maySpend claim value) :
      Step mayClaim maySpend (.held claim) (.spent claim value)
  | giveBack {claim : C} : Step mayClaim maySpend (.held claim) (.returned claim)

def Run (mayClaim : C → Prop) (maySpend : C → V → Prop) : OneShot C V → OneShot C V → Prop :=
  Relation.ReflTransGen (Step mayClaim maySpend)

theorem Run.mono {maySpend' : C → V → Prop}
    (hspend : ∀ claim value, maySpend claim value → maySpend' claim value)
    (h : Run mayClaim maySpend t t') : Run mayClaim maySpend' t t' := by
  refine Relation.ReflTransGen.mono ?_ _ _ h
  rintro _ _ (hclaim | hspent | _)
  · exact .claim hclaim
  · exact .spend (hspend _ _ hspent)
  · exact .giveBack

/-- What a one-shot thing says of its past: the claim and the spending were allowed. -/
structure Licensed (mayClaim : C → Prop) (maySpend : C → V → Prop) (t : OneShot C V) : Prop where
  claimed : ∀ claim, t.claim = some claim → mayClaim claim
  spent : ∀ claim value, t = .spent claim value → maySpend claim value

theorem Step.licensed (hstep : Step mayClaim maySpend t t') (h : t.Licensed mayClaim maySpend) :
    t'.Licensed mayClaim maySpend := by
  cases hstep with
  | claim hclaim =>
    refine ⟨?_, nofun⟩
    rintro claim ⟨⟩
    exact hclaim
  | spend hspend =>
    refine ⟨h.claimed, ?_⟩
    rintro claim value ⟨⟩
    exact hspend
  | giveBack => exact ⟨h.claimed, nofun⟩

/-- **Whatever was claimed or spent was allowed.** -/
theorem Run.licensed (h : Run mayClaim maySpend .unclaimed t) : t.Licensed mayClaim maySpend := by
  induction h with
  | refl => exact ⟨nofun, nofun⟩
  | tail _ hstep ih => exact hstep.licensed ih

/-- **What was spent stays spent**, on the same value. -/
theorem Run.spending_eq (h : Run mayClaim maySpend t t') {value : V}
    (hspent : t.spending = some value) : t'.spending = some value := by
  induction h with
  | refl => exact hspent
  | tail _ hstep ih => cases hstep <;> cases ih

end OneShot

namespace Network

variable {ι σ Q R A α : Type} [DecidableEq ι] {serve : σ → Q → R → σ → Prop}
  {unheard : R → Prop} {s s' : Network ι σ Q R A α}

/-- A step leaves the server alone, or serves a request that some program sends with it. -/
theorem Step.server_cases (hstep : Step serve unheard s s') :
    s'.server = s.server ∨
      ∃ i q next r, s.procs i = .call q next ∧ q ∈ requests (s'.trails i) ∧
        serve s.server q r s'.server := by
  cases hstep with
  | exchange hcall hserve =>
    exact Or.inr ⟨_, _, _, _, hcall, mem_requests_iff.mpr
      ⟨_, (mem_advance_trails ..).mpr (Or.inr ⟨rfl, rfl⟩)⟩, hserve⟩
  | lostReply hcall hserve hunheard =>
    exact Or.inr ⟨_, _, _, _, hcall, mem_requests_iff.mpr
      ⟨_, (mem_advance_trails ..).mpr (Or.inr ⟨rfl, rfl⟩)⟩, hserve⟩
  | lostRequest hcall hunheard => exact Or.inl rfl
  | act hact => exact Or.inl rfl

end Network

end Interaction
