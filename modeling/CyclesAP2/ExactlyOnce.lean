import CyclesAP2.Recovery

/-!
# Paying exactly once

A retry of a payment that has been settled, by a guard that says and settles the same,
sends nothing but what the server has on record (`retry_replays`).  So any number of such
retries, of either class and in any interleaving, leave the server as it was after the
first payment (`retries_leave_server`).
-/

namespace CyclesAP2

open Interaction

variable {ι σ : Type} [DecidableEq ι] {py : Python} {parties : ι → Party} {balances : σ}
  {s s' : GuardNetwork ι σ}

/-- The commit of a guard is on record, and was answered with a 2xx. -/
structure SettledOnRecord (s : GuardNetwork ι σ) (i : ι) (reservationId : String)
    (commitBody : CommitBody) (commit : Outcome) : Prop where
  sent : Request.commitReservation reservationId commitBody ∈ requests (s.trails i)
  recorded : s.server.recorded (Request.commitReservation reservationId commitBody).bucket =
    some (.commitReservation reservationId commitBody, commit)
  succeeded : commit.succeeded = true

/-- A fresh guard that says and settles the same as another one. -/
structure Retries (py : Python) (parties : ι → Party) (s : GuardNetwork ι σ) (i j : ι) : Prop where
  payload : SamePayload py (parties i).args (parties j).args
  settles : SettlesAlike py (parties i).body (parties j).body
  fresh : s.trails j = []

section Retry

variable {i j : ι} {reservationId : String} {commitBody : CommitBody} {commit : Outcome}

/-- The program of a retry makes no request that is not on record. -/
theorem retry_replays (h : Running py parties balances s)
    (hsettled : SettledOnRecord s i reservationId commitBody commit)
    (hretries : Retries py parties s i j) :
    Network.Replays (cyclesServer σ) s.server (s.procs j) := by
  obtain ⟨request, reserve, decision, self, hrequest, hadmission, hreserved, _, hleft, _,
    hcommitBody⟩ := Party.commit_cases (h.path i) hsettled.sent
  obtain ⟨hreserveSucceeded, hgranted⟩ := granted_of_admission hadmission
  have hreserveRecorded : s.server.recorded (Request.createReservation request).bucket =
      some (.createReservation request, reserve) :=
    (h.invariant.2 i _ _ hreserved rfl).resolve_left (by simp [hreserveSucceeded])
  have hdry : (parties j).args.dryRun = false := by
    obtain ⟨_, _, _, _, _, _, _, hdry, _⟩ := admission_eq_admitted_iff.mp hadmission
    exact hretries.payload.dryRun.symm.trans hdry
  obtain ⟨decision', hadmission'⟩ := admission_of_granted hgranted hdry
  obtain ⟨self', hleft', haborted', hcommitBody'⟩ :=
    hretries.settles.commitBody hretries.payload hleft hcommitBody
  have hproc : s.procs j = (parties j).program py := by
    have hpath := h.path j
    rw [hretries.fresh] at hpath
    exact Program.path_nil_iff.mp hpath
  rw [hproc, Party.program_of_body (hretries.payload.reservationBody hrequest)]
  refine ⟨reserve, hreserveRecorded, ?_⟩
  obtain ⟨rfl, _⟩ := admission_unique hadmission hadmission'
  dsimp only
  rw [hadmission']
  change Network.Replays _ _ (exitProgram ..)
  rw [hleft']
  dsimp only [exitProgram]
  rw [haborted']
  dsimp only [commitProgram]
  rw [hcommitBody']
  refine ⟨commit, hsettled.recorded, ?_⟩
  dsimp only
  rw [commitVerdict_settled_iff.mpr hsettled.succeeded]
  trivial

/-- **A payment that was settled is not settled again.**  Retries that say and settle the
    same leave the server exactly as it is, however many there are and however they
    interleave, as long as nothing else moves and nothing gets lost. -/
theorem retries_leave_server (h : Running py parties balances s)
    (honward : Network.Lossless (cyclesServer σ) s s')
    (hsettled : SettledOnRecord s i reservationId commitBody commit)
    (hretries : ∀ j, s'.trails j ≠ s.trails j → Retries py parties s i j) :
    s'.server = s.server := by
  refine (honward.unchanged (J := Retries py parties s i) ?_ ?_).1
  · intro j hj
    exact retry_replays h hsettled hj
  · intro j hj
    by_contra hmoved
    exact hj (hretries j hmoved)

end Retry

/-- The first payment of three that say the same is settled, and then the others pay. -/
theorem retries_leave_server_threefold :
    let s := Policy.sample.play .sample (fun _ : Fin 3 => retries false) (.empty ()) [0, 0, 0]
    (s.play Policy.sample.handle [1, 2, 1, 2, 2, 1]).server = s.server := by
  intro s
  have hrunning : Running .sample (fun _ : Fin 3 => retries false) () s := Policy.sample.running ..
  refine retries_leave_server (i := 0) hrunning (Policy.sample.lossless s _)
    ⟨mem_requests_iff.mpr ⟨_, .tail _ (.tail _ (.head _))⟩, rfl, rfl⟩ ?_
  intro j hmoved
  match j with
  | 0 => exact absurd rfl hmoved
  | 1 => exact ⟨.refl .., ⟨rfl, rfl, rfl, fun _ => rfl⟩, rfl⟩
  | 2 => exact ⟨.refl .., ⟨rfl, rfl, rfl, fun _ => rfl⟩, rfl⟩

end CyclesAP2
