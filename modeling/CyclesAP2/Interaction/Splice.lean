import CyclesAP2.Interaction.Idempotency
import CyclesAP2.Interaction.Network

/-!
# Splicing runs

Two runs of the same programs can be spliced: some of the programs do what they did in the
one run, after the others did what they did in the other run (`Reachable.splice`).  For
this, the server of the spliced run has to follow that of the first run.  It gives these
programs the answers that they got there, and does not miss what it did for the others
(`Network.Follows`).

A server with idempotency keys follows another one by having its records of some of the
keys (`Ledger.Follows`).  Then it serves alike what is sent under these keys, as far as
what it does beside its records allows it.
-/

namespace Interaction

/-! ### Servers with idempotency keys -/

section Protocols

variable {κ Q R W : Type}

/-- The server `m` has the records of `l` under the own keys, and the rest of its state is
    related to that of `l`. -/
structure Ledger.Follows (own : κ → Prop) (Rel : W → W → Prop) (l m : Ledger κ Q R W) : Prop where
  recorded : ∀ k, own k → m.recorded k = l.recorded k
  world : Rel l.world m.world

variable [DecidableEq κ] {protocol : Protocol κ Q R W} {own : κ → Prop} {Rel : W → W → Prop}
  {l l' m : Ledger κ Q R W} {q : Q} {r : R}

theorem Ledger.Follows.record (h : l.Follows own Rel m) (k : κ) (q : Q) (r : R) {w v : W}
    (hworld : Rel w v) :
    Ledger.Follows own Rel ⟨Protocol.record l.recorded k q r, w⟩
      ⟨Protocol.record m.recorded k q r, v⟩ := by
  refine ⟨?_, hworld⟩
  intro k' hown
  dsimp only
  by_cases hk : k' = k
  · subst hk
    rw [Protocol.record_self, Protocol.record_self]
  · rw [Protocol.record_of_ne _ _ _ hk, Protocol.record_of_ne _ _ _ hk]
    exact h.recorded k' hown

/-- A request under an own key is served as by the server that is followed. -/
theorem Protocol.Serves.follow (h : protocol.Serves l q r l') (hfollows : l.Follows own Rel m)
    (hown : own (protocol.key q))
    (happlies : protocol.applies l.world q r l'.world →
      ∃ v, protocol.applies m.world q r v ∧ Rel l'.world v) :
    ∃ m', protocol.Serves m q r m' ∧ l'.Follows own Rel m' := by
  have hrecorded := hfollows.recorded _ hown
  cases h with
  | first hunseen hfirst =>
    obtain ⟨v, hv, hrel⟩ := happlies hfirst
    exact ⟨_, .first (hrecorded.trans hunseen) hv, hfollows.record _ _ _ hrel⟩
  | refused hunseen hrefuses =>
    exact ⟨m, .refused (hrecorded.trans hunseen) hrefuses, hfollows⟩
  | replay hseen => exact ⟨m, .replay (hrecorded.trans hseen), hfollows⟩
  | mismatch hseen hne hmismatch =>
    exact ⟨m, .mismatch (hrecorded.trans hseen) hne hmismatch, hfollows⟩

/-- A request under another key can be passed by. -/
theorem Protocol.Serves.pass (h : protocol.Serves l q r l') (hfollows : l.Follows own Rel m)
    (hother : ¬own (protocol.key q))
    (happlies : protocol.applies l.world q r l'.world → Rel l'.world m.world) :
    l'.Follows own Rel m := by
  cases h with
  | first hunseen hfirst =>
    refine ⟨?_, happlies hfirst⟩
    intro k hown
    have hne : k ≠ protocol.key q := fun hk => hother (hk ▸ hown)
    exact (hfollows.recorded k hown).trans (Protocol.record_of_ne _ _ _ hne).symm
  | refused hunseen hrefuses => exact hfollows
  | replay hseen => exact hfollows
  | mismatch hseen hne hmismatch => exact hfollows

end Protocols

/-! ### Networks -/

namespace Network

variable {ι σ Q R A α : Type}

/-- The programs of `J` as in one network and the others as in another, with this server. -/
def splice (J : ι → Prop) [DecidablePred J] (s base : Network ι σ Q R A α) (server : σ) :
    Network ι σ Q R A α where
  server := server
  procs i := if J i then s.procs i else base.procs i
  trails i := if J i then s.trails i else base.trails i

section Splice

variable {J : ι → Prop} [DecidablePred J] {s base : Network ι σ Q R A α} {i : ι}

theorem splice_procs_of_pos (h : J i) (server : σ) :
    (s.splice J base server).procs i = s.procs i :=
  if_pos h

theorem splice_trails_of_pos (h : J i) (server : σ) :
    (s.splice J base server).trails i = s.trails i :=
  if_pos h

theorem splice_procs_of_neg (h : ¬J i) (server : σ) :
    (s.splice J base server).procs i = base.procs i :=
  if_neg h

theorem splice_trails_of_neg (h : ¬J i) (server : σ) :
    (s.splice J base server).trails i = base.trails i :=
  if_neg h

/-- A network that has all of `J` at its start is spliced with the start already. -/
theorem splice_start {server : σ} {programs : ι → Program Q R A α}
    (hprocs : ∀ i, J i → base.procs i = programs i) (htrails : ∀ i, J i → base.trails i = []) :
    (start server programs).splice J base base.server = base := by
  unfold splice start
  congr 1
  · funext i
    by_cases hi : J i
    · rw [if_pos hi, hprocs i hi]
    · rw [if_neg hi]
  · funext i
    by_cases hi : J i
    · rw [if_pos hi, htrails i hi]
    · rw [if_neg hi]

variable [DecidableEq ι]

/-- What a program of `J` does, it does in the spliced network. -/
theorem splice_advance_of_pos (h : J i) (l m m' : σ) (event : Event Q R A)
    (rest : Program Q R A α) :
    (s.advance i l event rest).splice J base m =
      (s.splice J base m').advance i m event rest := by
  unfold splice advance
  congr 1
  · funext j
    by_cases hj : j = i
    · subst hj
      simp [h]
    · simp [Function.update_of_ne hj]
  · funext j
    by_cases hj : j = i
    · subst hj
      simp [h]
    · simp [Function.update_of_ne hj]

/-- What another program does, the spliced network does not show. -/
theorem splice_advance_of_neg (h : ¬J i) (l m : σ) (event : Event Q R A)
    (rest : Program Q R A α) :
    (s.advance i l event rest).splice J base m = s.splice J base m := by
  unfold splice advance
  congr 1
  · funext j
    by_cases hj : J j
    · have hne : j ≠ i := fun heq => h (heq ▸ hj)
      simp [hj, Function.update_of_ne hne]
    · simp [hj]
  · funext j
    by_cases hj : J j
    · have hne : j ≠ i := fun heq => h (heq ▸ hj)
      simp [hj, Function.update_of_ne hne]
    · simp [hj]

end Splice

/-- How a server `m` follows a server `l`: what `l` does for an own request, `m` can do
    too, and what `l` does for another request may pass `m` by.  `Good` is known of the
    server at the end of the run, and so of the server all along. -/
structure Follows (serve : σ → Q → R → σ → Prop) (Own Other : σ → Q → Prop) (Good : σ → Prop)
    (Sim : σ → σ → Prop) : Prop where
  own : ∀ {l m q r l'}, Own l q → Sim l m → Good l' → serve l q r l' →
    ∃ m', serve m q r m' ∧ Sim l' m'
  other : ∀ {l m q r l'}, Other l q → Sim l m → serve l q r l' → Sim l' m
  good : ∀ {l q r l'}, serve l q r l' → Good l' → Good l

section Runs

variable [DecidableEq ι] {J : ι → Prop} [DecidablePred J] {serve : σ → Q → R → σ → Prop}
  {unheard : R → Prop} {Own Other : σ → Q → Prop} {Good : σ → Prop} {Sim : σ → σ → Prop}
  {s s' base : Network ι σ Q R A α}

theorem Step.good (hfollows : Follows serve Own Other Good Sim) (hstep : Step serve unheard s s')
    (hgood : Good s'.server) : Good s.server := by
  cases hstep with
  | exchange hcall hserve => exact hfollows.good hserve hgood
  | lostReply hcall hserve hunheard => exact hfollows.good hserve hgood
  | lostRequest hcall hunheard => exact hgood
  | act hact => exact hgood

/-- One step of the first run is a step of the spliced one, or none. -/
theorem Step.splice (hfollows : Follows serve Own Other Good Sim)
    (hown : ∀ i q next, s.procs i = .call q next → J i → Own s.server q)
    (hother : ∀ i q next, s.procs i = .call q next → ¬J i → Other s.server q)
    (hstep : Step serve unheard s s') (hgood : Good s'.server) {m : σ} (hsim : Sim s.server m) :
    ∃ m', Sim s'.server m' ∧
      Relation.ReflTransGen (Step serve unheard) (s.splice J base m) (s'.splice J base m') := by
  cases hstep with
  | @exchange i q next r l' hcall hserve =>
    by_cases hi : J i
    · obtain ⟨m', hserve', hsim'⟩ := hfollows.own (hown i q next hcall hi) hsim hgood hserve
      refine ⟨m', hsim', ?_⟩
      rw [splice_advance_of_pos hi l' m' m]
      exact .single (.exchange ((splice_procs_of_pos hi m).trans hcall) hserve')
    · refine ⟨m, hfollows.other (hother i q next hcall hi) hsim hserve, ?_⟩
      rw [splice_advance_of_neg hi]
  | @lostReply i q next r r' l' hcall hserve hunheard =>
    by_cases hi : J i
    · obtain ⟨m', hserve', hsim'⟩ := hfollows.own (hown i q next hcall hi) hsim hgood hserve
      refine ⟨m', hsim', ?_⟩
      rw [splice_advance_of_pos hi l' m' m]
      exact .single (.lostReply ((splice_procs_of_pos hi m).trans hcall) hserve' hunheard)
    · refine ⟨m, hfollows.other (hother i q next hcall hi) hsim hserve, ?_⟩
      rw [splice_advance_of_neg hi]
  | @lostRequest i q next r' hcall hunheard =>
    refine ⟨m, hsim, ?_⟩
    by_cases hi : J i
    · rw [splice_advance_of_pos hi s.server m m]
      exact .single (.lostRequest ((splice_procs_of_pos hi m).trans hcall) hunheard)
    · rw [splice_advance_of_neg hi]
  | @act i a rest hact =>
    refine ⟨m, hsim, ?_⟩
    by_cases hi : J i
    · rw [splice_advance_of_pos hi s.server m m]
      exact .single (.act ((splice_procs_of_pos hi m).trans hact))
    · rw [splice_advance_of_neg hi]

/-- **Runs can be spliced.**  From a network in which the programs of `J` are at their
    start, they can go on to what they came to in any other run, if its server can be
    followed. -/
theorem Reachable.splice {server : σ} {programs : ι → Program Q R A α}
    (hfollows : Follows serve Own Other Good Sim)
    (hown : ∀ s, Reachable serve unheard server programs s → ∀ i q next,
      s.procs i = .call q next → J i → Own s.server q)
    (hother : ∀ s, Reachable serve unheard server programs s → ∀ i q next,
      s.procs i = .call q next → ¬J i → Other s.server q)
    (hprocs : ∀ i, J i → base.procs i = programs i) (htrails : ∀ i, J i → base.trails i = [])
    (hsim : Sim server base.server) (h : Reachable serve unheard server programs s)
    (hgood : Good s.server) :
    ∃ m, Sim s.server m ∧
      Relation.ReflTransGen (Step serve unheard) base (s.splice J base m) := by
  induction h with
  | refl =>
    refine ⟨base.server, hsim, ?_⟩
    rw [splice_start hprocs htrails]
  | @tail s s' hreach hstep ih =>
    obtain ⟨m, hsim', hrun⟩ := ih (hstep.good hfollows hgood)
    obtain ⟨m', hsim'', hmore⟩ := hstep.splice hfollows (hown s hreach)
      (hother s hreach) hgood hsim'
    exact ⟨m', hsim'', hrun.trans hmore⟩

end Runs

end Network

end Interaction
