import StakePool.Proofs.Setup.Coherence
/-!
# Rival setups

Any number of setups may race for the same pool on one store, step by step and in any order, while
others give lamports away, make submissions fail and submit whatever they like. The first whose
record is written wins, and from then on the pool stands in the way of all the others.
-/

namespace StakePool

/-- Setups for one and the same pool. -/
structure Rivals (ι : Type) where
  programId : Key
  root : Key
  payer : ι → Key
  parameters : ι → Parameters

namespace Rivals

variable {ι : Type}

def setup (rivals : Rivals ι) (rival : ι) : Setup where
  programId := rivals.programId
  payer := rivals.payer rival
  root := rivals.root
  parameters := rivals.parameters rival

/-- The store, and how far every setup has got. -/
structure World (ι : Type) where
  store : Store
  phase : ι → Setup.Phase

/-- What can happen next. -/
inductive Move (ι : Type) where
  | step (rival : ι)
  | airdrop (address : Key) (lamports : UInt64)
  | failAfter (skipped : Nat)
  | submit (batch : Batch)
deriving DecidableEq

def World.IsWritten (world : World ι) (rival : ι) : Prop :=
  ∃ pool transactions, world.phase rival = .written pool transactions

variable {scheme : AddressScheme} {rivals : Rivals ι} {world : World ι}

/-- Every setup is coherent, and no two have written the pool. -/
structure Sound (scheme : AddressScheme) (rivals : Rivals ι) (world : World ι) : Prop where
  coherent : ∀ rival,
    Setup.Coherent scheme (rivals.setup rival) world.store.accounts.find? (world.phase rival)
  unique : ∀ first second, world.IsWritten first → world.IsWritten second → first = second

theorem sound_of_unstarted (h : ∀ rival, world.phase rival = .unstarted) :
    Sound scheme rivals world where
  coherent rival := by
    rw [h rival]
    trivial
  unique first second := by
    rintro ⟨pool, transactions, hfirst⟩
    rw [h first] at hfirst
    cases hfirst

/-- When one setup has written the pool, a step of another one writes nothing. -/
theorem Sound.step_of_written (h : Sound scheme rivals world) {winner rival : ι}
    (hwon : world.IsWritten winner) (hactive : ¬ (world.phase rival).IsTerminal) :
    ((rivals.setup rival).step scheme world.store.quote (world.phase rival) world.store).store
        = world.store
      ∧ (¬ ((rivals.setup rival).step scheme world.store.quote (world.phase rival)
          world.store).phase.IsTerminal
        ∨ (rivals.setup rival).Lost ((rivals.setup rival).step scheme world.store.quote
          (world.phase rival) world.store).phase) := by
  obtain ⟨pool, transactions, hwritten⟩ := hwon
  have hwinner := h.coherent winner
  rw [hwritten] at hwinner
  obtain ⟨book, hbook, rfl, hexists⟩ := hwinner
  exact Setup.step_of_poolExists hbook hexists (h.coherent rival) hactive

/-- What stays true once a setup has won: it has won for good, and whoever was under way is bound to
lose. -/
structure Decided (scheme : AddressScheme) (rivals : Rivals ι) (won : World ι) (winner : ι)
    (world : World ι) : Prop where
  sound : Sound scheme rivals world
  phase_winner : world.phase winner = won.phase winner
  losing : ∀ rival, ¬ (won.phase rival).IsTerminal →
    ¬ (world.phase rival).IsTerminal ∨ (rivals.setup rival).Lost (world.phase rival)

theorem Decided.isWritten {won : World ι} {winner : ι} (hwon : won.IsWritten winner)
    (h : Decided scheme rivals won winner world) :
    world.IsWritten winner := by
  obtain ⟨pool, transactions, hphase⟩ := hwon
  exact ⟨pool, transactions, h.phase_winner.trans hphase⟩

variable [DecidableEq ι]

def next (scheme : AddressScheme) (rivals : Rivals ι) (world : World ι) : Move ι → World ι
  | .step rival =>
    let outcome :=
      (rivals.setup rival).step scheme world.store.quote (world.phase rival) world.store
    { store := outcome.store
      phase := fun other => if other = rival then outcome.phase else world.phase other }
  | .airdrop address lamports => { world with store := world.store.airdrop address lamports }
  | .failAfter skipped => { world with store := world.store.failAfter skipped }
  | .submit batch => { world with store := (world.store.submit batch).2 }

/-- The world after moves in any order. -/
def play (scheme : AddressScheme) (rivals : Rivals ι) (moves : List (Move ι)) (world : World ι) :
    World ι :=
  moves.foldl (next scheme rivals) world

/-- What no move disturbs, a whole play keeps. -/
theorem play_induct {motive : World ι → Prop}
    (hnext : ∀ world move, motive world → motive (next scheme rivals world move))
    (h : motive world) (moves : List (Move ι)) : motive (play scheme rivals moves world) := by
  induction moves generalizing world with
  | nil => exact h
  | cons move rest ih => exact ih (hnext world move h)

theorem holds_next {key owner : Key} {data : Bytes} (hrecord : (PoolRecord.ofData? data).isSome)
    (hbefore : world.store.accounts.Holds key owner data) (move : Move ι) :
    (next scheme rivals world move).store.accounts.Holds key owner data := by
  cases move with
  | step rival => exact Setup.holds_step hrecord hbefore
  | airdrop address lamports => exact Store.holds_airdrop hbefore address lamports
  | failAfter skipped => exact hbefore
  | submit batch => exact Store.holds_submit hrecord hbefore batch

theorem phase_next_of_ne {rival other : ι} (h : other ≠ rival) :
    (next scheme rivals world (.step rival)).phase other = world.phase other :=
  if_neg h

theorem phase_next_self (rival : ι) :
    (next scheme rivals world (.step rival)).phase rival
      = ((rivals.setup rival).step scheme world.store.quote (world.phase rival)
          world.store).phase :=
  if_pos rfl

/-- The pool is only written by a step, and only while nobody has written it. -/
theorem Sound.isWritten_next (h : Sound scheme rivals world) {move : Move ι} {rival : ι}
    (hwritten : (next scheme rivals world move).IsWritten rival) :
    world.IsWritten rival ∨ (move = .step rival ∧ ∀ winner, ¬ world.IsWritten winner) := by
  cases move with
  | airdrop | failAfter | submit => exact .inl hwritten
  | step other =>
    obtain ⟨pool, transactions, hphase⟩ := hwritten
    by_cases hother : rival = other
    · subst hother
      rw [phase_next_self] at hphase
      by_cases hterminal : (world.phase rival).IsTerminal
      · rw [(Setup.step_of_terminal hterminal).2] at hphase
        exact .inl ⟨pool, transactions, hphase⟩
      · refine .inr ⟨rfl, fun winner hwon => ?_⟩
        obtain ⟨-, hresult⟩ := h.step_of_written hwon hterminal
        rw [hphase] at hresult
        obtain hactive | ⟨failure, haborted, -⟩ := hresult
        · exact hactive trivial
        · cases haborted
    · rw [phase_next_of_ne hother] at hphase
      exact .inl ⟨pool, transactions, hphase⟩

theorem sound_next (h : Sound scheme rivals world) (move : Move ι) :
    Sound scheme rivals (next scheme rivals world move) where
  coherent other := by
    have hkept : Setup.Coherent scheme (rivals.setup other)
        (next scheme rivals world move).store.accounts.find? (world.phase other) :=
      (h.coherent other).mono fun _ _ hrecord hholds => holds_next hrecord hholds move
    cases move with
    | step rival =>
      by_cases hother : other = rival
      · subst hother
        rw [phase_next_self]
        exact Setup.coherent_step (h.coherent other)
      · rw [phase_next_of_ne hother]
        exact hkept
    | airdrop | failAfter | submit => exact hkept
  unique first second hfirst hsecond := by
    obtain hfirst | ⟨hmove, hnobody⟩ := h.isWritten_next hfirst
    · obtain hsecond | ⟨-, hnobody⟩ := h.isWritten_next hsecond
      · exact h.unique first second hfirst hsecond
      · exact absurd hfirst (hnobody first)
    · obtain hsecond | ⟨hsame, -⟩ := h.isWritten_next hsecond
      · exact absurd hsecond (hnobody second)
      · exact Move.step.inj (hmove.symm.trans hsame)

section Decided

variable {won : World ι} {winner : ι} (hwon : won.IsWritten winner)
include hwon

theorem decided_next (h : Decided scheme rivals won winner world) (move : Move ι) :
    Decided scheme rivals won winner (next scheme rivals world move) where
  sound := sound_next h.sound move
  phase_winner := by
    cases move with
    | airdrop | failAfter | submit => exact h.phase_winner
    | step rival =>
      by_cases hwinner : winner = rival
      · subst hwinner
        obtain ⟨pool, transactions, hphase⟩ := Decided.isWritten hwon h
        have hterminal : (world.phase winner).IsTerminal := by
          rw [hphase]
          trivial
        rw [phase_next_self, (Setup.step_of_terminal hterminal).2, h.phase_winner]
      · rw [phase_next_of_ne hwinner, h.phase_winner]
  losing other hactive := by
    cases move with
    | airdrop | failAfter | submit => exact h.losing other hactive
    | step rival =>
      by_cases hother : other = rival
      · subst hother
        rw [phase_next_self]
        by_cases hterminal : (world.phase other).IsTerminal
        · rw [(Setup.step_of_terminal hterminal).2]
          exact h.losing other hactive
        · exact (h.sound.step_of_written (Decided.isWritten hwon h) hterminal).2
      · rw [phase_next_of_ne hother]
        exact h.losing other hactive

theorem Decided.store_next (h : Decided scheme rivals won winner world) (rival : ι) :
    (next scheme rivals world (.step rival)).store = world.store := by
  by_cases hterminal : (world.phase rival).IsTerminal
  · exact (Setup.step_of_terminal hterminal).1
  · exact (h.sound.step_of_written (Decided.isWritten hwon h) hterminal).1

end Decided

theorem stepsLeft_play (scheme : AddressScheme) (rivals : Rivals ι) (world : World ι)
    (moves : List (Move ι)) (rival : ι) :
    ((play scheme rivals moves world).phase rival).stepsLeft
      ≤ (world.phase rival).stepsLeft - moves.count (.step rival) := by
  induction moves generalizing world with
  | nil => exact Nat.le_refl _
  | cons move rest ih =>
    have hrest := ih (next scheme rivals world move)
    rw [play, List.foldl_cons, List.count_cons]
    rw [play] at hrest
    by_cases hmove : move = .step rival
    · subst hmove
      rw [phase_next_self] at hrest
      have hstep :=
        Setup.stepsLeft_step scheme (rivals.setup rival) world.store (world.phase rival)
      simp only [beq_self_eq_true, if_true]
      omega
    · have hsame : (next scheme rivals world move).phase rival = world.phase rival := by
        cases move with
        | airdrop | failAfter | submit => rfl
        | step other => exact phase_next_of_ne fun heq => hmove (heq ▸ rfl)
      rw [hsame] at hrest
      simpa [hmove] using hrest

/-- The first to have its pool written wins: nobody else ever writes it, its record keeps its owner
and its data, no step of any setup changes an account again, and every setup that was still under
way loses, which takes at most four more of its steps. -/
theorem first_written_wins {initial won : World ι} {winner : ι} {pool : Key}
    {transactions : List UInt64} (hunstarted : ∀ rival, initial.phase rival = .unstarted)
    (before after : List (Move ι)) (hplayed : won = play scheme rivals before initial)
    (hwon : won.phase winner = .written pool transactions) :
    (∀ rival, (play scheme rivals after won).IsWritten rival → rival = winner)
      ∧ (∃ account kept, won.store.accounts.find? pool = some account
        ∧ (play scheme rivals after won).store.accounts.find? pool = some kept
        ∧ kept.owner = account.owner ∧ kept.data = account.data)
      ∧ (∀ rival, (next scheme rivals (play scheme rivals after won) (.step rival)).store.accounts
        = (play scheme rivals after won).store.accounts)
      ∧ (∀ rival, ¬ (won.phase rival).IsTerminal →
        ((play scheme rivals after won).phase rival).IsTerminal →
          (rivals.setup rival).Lost ((play scheme rivals after won).phase rival))
      ∧ ∀ rival, 4 ≤ after.count (.step rival) →
        ((play scheme rivals after won).phase rival).IsTerminal := by
  have hsound : Sound scheme rivals won := by
    rw [hplayed]
    exact play_induct (motive := Sound scheme rivals) (fun _ move h => sound_next h move)
      (sound_of_unstarted hunstarted) before
  have hwritten : won.IsWritten winner := ⟨pool, transactions, hwon⟩
  have hdecided : Decided scheme rivals won winner (play scheme rivals after won) :=
    play_induct (motive := Decided scheme rivals won winner)
      (fun _ move h => decided_next hwritten h move)
      ⟨hsound, rfl, fun _ hactive => .inl hactive⟩ after
  refine ⟨fun rival hrival => ?_, ?_, fun rival => ?_, fun rival hactive hended => ?_,
    fun rival hsteps => ?_⟩
  · exact hdecided.sound.unique rival winner hrival (Decided.isWritten hwritten hdecided)
  · have hwinner := hsound.coherent winner
    rw [hwon] at hwinner
    obtain ⟨-, -, -, account, hfound, -, hrecord⟩ := hwinner
    have hholds : (play scheme rivals after won).store.accounts.Holds pool account.owner
        account.data :=
      play_induct
        (motive := fun world => world.store.accounts.Holds pool account.owner account.data)
        (fun _ move h => holds_next hrecord h move) ⟨account, hfound, rfl, rfl⟩ after
    obtain ⟨kept, hkept, howner, hdata⟩ := hholds
    exact ⟨account, kept, hfound, hkept, howner, hdata⟩
  · rw [hdecided.store_next hwritten]
  · exact (hdecided.losing rival hactive).resolve_left fun h => h hended
  · have hleft := stepsLeft_play scheme rivals won after rival
    have hbound := Setup.Phase.stepsLeft_le_four (won.phase rival)
    exact Setup.Phase.isTerminal_of_stepsLeft (by omega)

/-- Two setups with the same parameters, at the expense of two payers. -/
def sample : Rivals Bool where
  programId := Setup.sample.programId
  root := Setup.sample.root
  payer rival := if rival then Setup.sample.payer else .ofNat 8
  parameters _ := .sample

theorem next_sample :
    next .standard sample ⟨Store.sample, fun _ => .unstarted⟩ (.step true)
      = ⟨Store.sample, fun rival =>
          if rival = true then .addressesDerived ⟨.sample, []⟩ else .unstarted⟩ := by
  have hsetup : sample.setup true = Setup.sample := rfl
  simp only [next, hsetup, Setup.step, Setup.derive_sample]
  rfl

theorem play_sample :
    (play .standard sample [.step true, .step true, .step true, .step true]
      ⟨Store.sample, fun _ => .unstarted⟩).phase true
        = .written AddressBook.sample.pool [1, 2, 3, 4] := by
  rw [play, List.foldl_cons, next_sample]
  decide +kernel

theorem first_written_wins_sample :
    (sample.setup false).Lost
      ((play .standard sample
        [.step false, .failAfter 0, .step false, .airdrop (.ofNat 8) 1, .step false, .step false]
        (play .standard sample [.step true, .step true, .step true, .step true]
          ⟨Store.sample, fun _ => .unstarted⟩)).phase false) := by
  obtain ⟨-, -, -, hlost, hended⟩ := first_written_wins
    (fun _ => rfl) [.step true, .step true, .step true, .step true]
    [.step false, .failAfter 0, .step false, .airdrop (.ofNat 8) 1, .step false, .step false] rfl
    play_sample
  refine hlost false ?_ (hended false (by decide))
  rw [play, List.foldl_cons, next_sample]
  decide +kernel

end Rivals

end StakePool
