import CyclesAP2.ActionKinds
import CyclesAP2.Interaction.Replay
import CyclesAP2.Probes

/-!
# Who is to blame for a mismatch

`IDEMPOTENCY_MISMATCH` tells a guard that its key was used for something else.  If
the server says so only then, and nothing on the way makes it up, there is a rival:
another guard over the same consume-once input that sent a different request of the
same phase (`mismatch_blames_rival`).  Guards over other inputs never get in each
other's way, because their keys differ in every phase.
-/

namespace CyclesAP2

open Interaction

variable {ι σ : Type} [DecidableEq ι]

/-! ### One request of each phase -/

section Paths

variable {py : Python} {clock : Int} {flavour : Flavour} {decision : Decision}
  {reservationId : String} {left result : GuardResult} {trail : List GuardEvent}

theorem ExitCourse.request_unique
    (h : ExitCourse py clock flavour decision reservationId left result trail)
    {request request' : Request} (hsent : request ∈ requests trail)
    (hsent' : request' ∈ requests trail) (hphase : request.phase = request'.phase) :
    request = request' := by
  have hone : ∀ sent : Request, request ∈ [sent] → request' ∈ [sent] → request = request' := by
    intro sent hmem hmem'
    rw [List.mem_singleton.mp hmem, List.mem_singleton.mp hmem']
  cases h with
  | bodyRaised e self release => exact hone _ hsent hsent'
  | aborted release haborted => exact hone _ hsent hsent'
  | settled haborted hbody hverdict => exact hone _ hsent hsent'
  | raised haborted hbody hverdict => exact hone _ hsent hsent'
  | rejected release haborted hbody hverdict =>
    rcases List.mem_pair.mp hsent with rfl | rfl <;> rcases List.mem_pair.mp hsent' with rfl | rfl
    · rfl
    · cases hphase
    · cases hphase
    · rfl

/-- A guard sends at most one request of each phase. -/
theorem Party.request_unique {party : Party} {p : GuardProgram}
    (h : Program.Path (party.program py) trail p) {request request' : Request}
    (hsent : request ∈ requests trail) (hsent' : request' ∈ requests trail)
    (hphase : request.phase = request'.phase) : request = request' := by
  rcases trail_cases h with rfl | ⟨body, reserve, _, rfl⟩ |
    ⟨body, reserve, decision, reservationId, result, rest, exit, _, _, rfl, hbefore, hexit⟩
  · cases hsent
  · rw [List.mem_singleton.mp hsent, List.mem_singleton.mp hsent']
  · have hlater : ∀ q ∈ requests rest, q ∈ requests exit :=
      fun q hq => (hbefore.filterMap Event.request?).subset hq
    have hnotReserve : ∀ q ∈ requests rest, q.phase ≠ .reserve :=
      fun q hq => (hexit.key_of_request (hlater q hq)).1
    rcases List.mem_cons.mp hsent with rfl | hsent
    · rcases List.mem_cons.mp hsent' with rfl | hsent'
      · rfl
      · exact absurd hphase.symm (hnotReserve _ hsent')
    · rcases List.mem_cons.mp hsent' with rfl | hsent'
      · exact absurd hphase (hnotReserve _ hsent)
      · exact hexit.request_unique (hlater _ hsent) (hlater _ hsent') hphase

end Paths

/-! ### Servers that report a mismatch only when there is one -/

/-- An answer that reports a mismatch. -/
def Outcome.Mismatch (outcome : Outcome) : Prop := outcome.HasError "IDEMPOTENCY_MISMATCH"

/-- The documented server, where an answer to an unseen key reports no mismatch. -/
def candidServer (σ : Type) : Protocol (KeyPhase × String) Request Outcome (Books σ) where
  key := Request.bucket
  applies books request outcome books' :=
    Applies books.reservations request outcome books'.reservations ∧ ¬outcome.Mismatch
  refuses _ outcome := outcome.succeeded = false ∧ ¬outcome.Mismatch
  mismatch := Outcome.Mismatch

/-- What a guard sees instead of a lost message reports no mismatch either. -/
def UnheardCandidly (outcome : Outcome) : Prop := outcome.succeeded = false ∧ ¬outcome.Mismatch

theorem candidServer_refines : (candidServer σ).Refines (cyclesServer σ) where
  key := rfl
  applies := And.left
  refuses := And.left
  mismatch := id

/-- The networks that these guards and such a server can come to. -/
def RunningCandidly (py : Python) (parties : ι → Party) (balances : σ) (s : GuardNetwork ι σ) :
    Prop :=
  Network.Reachable (candidServer σ).Serves UnheardCandidly (ServerState.empty balances)
    (fun i => (parties i).program py) s

section Running

variable {py : Python} {parties : ι → Party} {balances : σ} {s : GuardNetwork ι σ}

theorem RunningCandidly.running (h : RunningCandidly py parties balances s) :
    Running py parties balances s :=
  Network.Reachable.mono candidServer_refines.serves And.left h

/-- No record of such a server reports a mismatch. -/
theorem RunningCandidly.recorded (h : RunningCandidly py parties balances s)
    {bucket : KeyPhase × String} {request : Request} {outcome : Outcome}
    (hrecorded : s.server.recorded bucket = some (request, outcome)) : ¬outcome.Mismatch := by
  have hcandid : (candidServer σ).Establishes fun _ _ outcome => ¬outcome.Mismatch :=
    ⟨And.right, fun _ h => h⟩
  exact Network.Reachable.established hcandid (fun _ => rfl) h hrecorded

/-- **A mismatch has a culprit**: another guard over the same consume-once input, which
    sent a different request of the same phase under the same key. -/
theorem mismatch_blames_rival (h : RunningCandidly py parties balances s)
    (hdigest : ∀ i, IsDigest (hashInput py (consumeOnceInput (parties i).args.mandate).2))
    (hinjective : ∀ i j, hashInput py (consumeOnceInput (parties i).args.mandate).2 =
        hashInput py (consumeOnceInput (parties j).args.mandate).2 →
      (consumeOnceInput (parties i).args.mandate).2 =
        (consumeOnceInput (parties j).args.mandate).2)
    {i : ι} {request : Request} {outcome : Outcome}
    (hseen : Event.exchange request outcome ∈ s.trails i) (hmismatch : outcome.Mismatch) :
    ∃ j, j ≠ i ∧ SameConsumeOnce (parties i).args.mandate (parties j).args.mandate ∧
      ∃ request' ∈ requests (s.trails j), request'.phase = request.phase ∧
        request'.key = request.key ∧ request' ≠ request := by
  cases Network.Reachable.explained h hseen with
  | recorded hrecorded => exact absurd hmismatch (h.recorded hrecorded)
  | lost hunheard => exact absurd hmismatch hunheard.2
  | refused hrefuses => exact absurd hmismatch hrefuses.2
  | @mismatch request' outcome' _ hrecorded hne =>
    obtain ⟨hbucket, j, hsent⟩ :=
      Network.Reachable.recordsSent (fun _ => rfl) h _ _ _ hrecorded
    obtain ⟨hphase, hkey⟩ := Prod.mk.inj hbucket
    have hrequest := mem_requests_iff.mpr ⟨outcome, hseen⟩
    refine ⟨j, ?_, ?_, request', hsent, hphase, hkey, hne⟩
    · rintro rfl
      exact hne (Party.request_unique (h.running.path j) hsent hrequest hphase)
    · obtain ⟨suffix, hkeyi⟩ := Party.key_of_request (h.running.path i) hrequest
      obtain ⟨suffix', hkeyj⟩ := Party.key_of_request (h.running.path j) hsent
      rw [hkeyi, hkeyj, idempotencyKey_eq_iff_keyFields (hdigest j) (hdigest i), keyFields_eq_iff]
        at hkey
      obtain ⟨hscope, hhash, _, _⟩ := hkey
      exact sameConsumeOnce_iff.mpr (Prod.ext hscope (hinjective j i hhash)).symm

end Running

/-- A documented server that decides by a function reports no other mismatch. -/
theorem Policy.Documented.runningCandidly {policy : Policy σ} (h : policy.Documented)
    (py : Python) (parties : ι → Party) (balances : σ) (schedule : List ι) :
    RunningCandidly py parties balances (policy.play py parties (.empty balances) schedule) := by
  refine Network.play_reachable ?_ schedule _
  intro l request
  have hserves : (candidServer σ).Serves l request
      ((candidServer σ).handle policy.fresh policy.clash l request).1
      ((candidServer σ).handle policy.fresh policy.clash l request).2 :=
    Protocol.handle_serves
      (fun books request => ⟨policy.applies books request, h.unseen books request⟩) policy.mismatch
  exact hserves

/-- A refund that is turned down because of the charge of its mandate. -/
theorem mismatch_blames_rival_refund :
    let s := Policy.sample.play .sample chargeAndRefund (.empty ()) [false, false, false, true]
    ∃ request outcome, Event.exchange request outcome ∈ s.trails true ∧ outcome.Mismatch ∧
      ∃ j, j ≠ true ∧ SameConsumeOnce (chargeAndRefund true).args.mandate
          (chargeAndRefund j).args.mandate ∧
        ∃ request' ∈ requests (s.trails j), request'.phase = request.phase ∧
          request'.key = request.key ∧ request' ≠ request := by
  intro s
  have hrunning : RunningCandidly .sample chargeAndRefund () s :=
    Policy.sample_documented.runningCandidly ..
  have hdigest : IsDigest (hashInput .sample (consumeOnceInput .sample).2) := by decide
  exact ⟨_, _, .head _, Policy.sample.mismatch,
    mismatch_blames_rival hrunning (fun _ => hdigest) (fun _ _ _ => rfl) (.head _)
      Policy.sample.mismatch⟩

end CyclesAP2
