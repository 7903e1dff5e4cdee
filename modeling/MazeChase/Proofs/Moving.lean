import MazeChase.Game.Turn
import MazeChase.Proofs.Sequence

/-!
# What the two passes of a tick do

A tick first approves all decisions and then settles the wishes one after the other. This file says
once what each pass can do, so that later proofs need not open the definitions: which decision a
failing approval names, what an approved list of wishes looks like, the three ways in which one wish
is settled, and how a relation that one wish respects is respected by all of them.

## Main definitions

* `Settled` — the three ways to settle one wish
* `Midway` — who stands where when the turn of an agent comes

## Main results

* `approveAll_eq_error_iff` — the first decision that is not approved is the one reported
* `approveAll_eq_ok_iff` — approved wishes are the decisions, and whoever wishes to move is placed
* `settle_eq_ok_iff` — a wish is settled in one of three ways
* `settleAll_induction` — what every settled wish respects, all of them together respect
* `exists_turn` — every agent has one turn
* `exists_settleAll_eq_ok` — on a board that the population covers no approved wish fails
-/

namespace MazeChase

variable {board : Board} {rules : Rules} {p q r : Population} {a b : AgentId} {e : GameError}

/-! ### Approving -/

theorem approve_eq_error_iff {d : Decision} :
    approve p a d = .error e ↔
      (∃ cause, d = .error cause ∧ e = .decision cause) ∨
        ∃ way, d = .ok (some way) ∧ p.tile? a = none ∧ e = .placement (.unplaced a) := by
  rcases d with cause | _ | way
  · simp [approve, eq_comm]
  · simp [approve]
  · cases h : p.tile? a <;> simp [approve, Population.requireTile, h, eq_comm]

theorem approve_eq_ok_iff {d : Decision} {wish : Option Direction} :
    approve p a d = .ok wish ↔ d = .ok wish ∧ (wish.isSome → (p.tile? a).isSome) := by
  rcases d with cause | _ | way
  · simp [approve]
  · simp only [approve, Except.ok.injEq]
    refine ⟨?_, And.left⟩
    rintro rfl
    simp
  · cases h : p.tile? a with
    | none =>
      simp only [approve, Population.requireTile, h, reduceCtorEq, Except.ok.injEq, false_iff,
        not_and]
      rintro rfl
      simp
    | some t => simp [approve, Population.requireTile, h]

theorem approveAll_cons_eq_error_iff {i : Nat} {d : Decision} {ds : List Decision} :
    approveAll p i (d :: ds) = .error e ↔
      approve p ⟨i⟩ d = .error e ∨
        (∃ wish, approve p ⟨i⟩ d = .ok wish) ∧ approveAll p (i + 1) ds = .error e := by
  simp only [approveAll, bind_eq_error_iff]
  simp [pure, Except.pure]

/-- Of several decisions that are not approved the first is the one that is reported. -/
theorem approveAll_eq_error_iff {i : Nat} {ds : List Decision} :
    approveAll p i ds = .error e ↔
      ∃ j d, ds[j]? = some d ∧ approve p ⟨i + j⟩ d = .error e ∧
        ∀ k < j, ∀ d', ds[k]? = some d' → ∃ wish, approve p ⟨i + k⟩ d' = .ok wish := by
  -- The list shrinks from the front while the identifiers count up, so `i` has to stay free.
  induction ds generalizing i with
  | nil => simp [approveAll]
  | cons d ds ih =>
    rw [approveAll_cons_eq_error_iff, ih]
    constructor
    · rintro (h | ⟨hok, j, d', hd', he, hbefore⟩)
      · exact ⟨0, d, rfl, h, by simp⟩
      · refine ⟨j + 1, d', hd', by rwa [Nat.add_right_comm, Nat.add_assoc] at he, ?_⟩
        rintro (_ | k) hk d'' hd''
        · simpa [← Option.some.inj hd''] using hok
        · simpa [Nat.add_assoc, Nat.add_comm 1] using hbefore k (by omega) d'' hd''
    · rintro ⟨_ | j, d', hd', he, hbefore⟩
      · exact .inl (Option.some.inj hd' ▸ he)
      · refine .inr ⟨hbefore 0 (by omega) d rfl, j, d', hd', ?_, ?_⟩
        · rwa [Nat.add_right_comm, Nat.add_assoc]
        · intro k hk d'' hd''
          simpa [Nat.add_assoc, Nat.add_comm 1] using hbefore (k + 1) (by omega) d'' hd''

theorem approveAll_cons_eq_ok_iff {i : Nat} {d : Decision} {ds : List Decision}
    {wish : Option Direction} {wishes : List (Option Direction)} :
    approveAll p i (d :: ds) = .ok (wish :: wishes) ↔
      approve p ⟨i⟩ d = .ok wish ∧ approveAll p (i + 1) ds = .ok wishes := by
  simp only [approveAll, bind_eq_ok_iff]
  simp [pure, Except.pure]

theorem length_of_approveAll {i : Nat} {ds : List Decision} {wishes : List (Option Direction)}
    (h : approveAll p i ds = .ok wishes) : wishes.length = ds.length := by
  induction ds generalizing i wishes with
  | nil => simp_all [approveAll]
  | cons d ds ih =>
    simp only [approveAll, bind_eq_ok_iff] at h
    obtain ⟨wish, -, rest, hrest, h⟩ := h
    obtain rfl : wish :: rest = wishes := Except.ok.inj h
    simp [ih hrest]

/-- Approval hands the decisions on as they are, and vouches for the tile of whoever moves. -/
theorem approveAll_eq_ok_iff {i : Nat} {ds : List Decision} {wishes : List (Option Direction)} :
    approveAll p i ds = .ok wishes ↔
      ds = wishes.map .ok ∧
        ∀ (j : Nat) (d : Direction), wishes[j]? = some (some d) → (p.tile? ⟨i + j⟩).isSome := by
  induction wishes generalizing i ds with
  | nil =>
    constructor
    · intro h
      simpa using (length_of_approveAll h).symm
    · rintro ⟨rfl, -⟩
      rfl
  | cons wish wishes ih =>
    cases ds with
    | nil => simp [approveAll]
    | cons d ds =>
      rw [approveAll_cons_eq_ok_iff, approve_eq_ok_iff, ih]
      constructor
      · rintro ⟨⟨rfl, hhead⟩, rfl, hrest⟩
        refine ⟨rfl, ?_⟩
        rintro (_ | j) d hd
        · exact hhead (by simp_all)
        · simpa [Nat.add_assoc, Nat.add_comm 1] using hrest j d hd
      · rintro ⟨hds, hplaced⟩
        obtain ⟨rfl, rfl⟩ := List.cons.inj hds
        refine ⟨⟨rfl, fun hwish => ?_⟩, rfl, fun j d hd => ?_⟩
        · obtain ⟨d, rfl⟩ := Option.isSome_iff_exists.1 hwish
          exact hplaced 0 d rfl
        · simpa [Nat.add_assoc, Nat.add_comm 1] using hplaced (j + 1) d hd

/-! ### Settling -/

/-- The ways in which the wish of agent `a` is settled: whoever wishes to stay is idle, a step to a
tile that is not there or not open is blocked, and any other step is made. -/
inductive Settled (board : Board) (rules : Rules) (p : Population) (a : AgentId) :
    Option Direction → Population → Outcome → Prop
  | idle : Settled board rules p a none p .idle
  | blocked {d : Direction} {here : TileId} (hhere : p.tile? a = some here)
      (hstep : (movingView board rules p).graph.step? here d a = none) :
      Settled board rules p a (some d) p .blocked
  | moved {d : Direction} {here there : TileId} {q : Population} (hhere : p.tile? a = some here)
      (hstep : (movingView board rules p).graph.step? here d a = some there)
      (hoccupy : p.occupy a there = .ok q) : Settled board rules p a (some d) q .moved

theorem requireTile_eq_ok_iff {t : TileId} : p.requireTile a = .ok t ↔ p.tile? a = some t := by
  cases h : p.tile? a <;> simp [Population.requireTile, h]

theorem settle_eq_ok_iff {wish : Option Direction} {o : Outcome} :
    settle board rules p a wish = .ok (q, o) ↔ Settled board rules p a wish q o := by
  constructor
  · intro h
    cases wish with
    | none =>
      obtain ⟨rfl, rfl⟩ := by simpa [settle] using h
      exact .idle
    | some d =>
      simp only [settle, attempt, bind_eq_ok_iff, requireTile_eq_ok_iff] at h
      obtain ⟨here, hhere, h⟩ := h
      split at h
      · next hstep =>
        obtain ⟨rfl, rfl⟩ := by simpa [pure, Except.pure] using h
        exact .blocked hhere hstep
      · next there hstep =>
        obtain ⟨q', hoccupy, h⟩ := bind_eq_ok_iff.1 h
        obtain ⟨rfl, rfl⟩ := by simpa [pure, Except.pure] using h
        exact .moved hhere hstep hoccupy
  · rintro (_ | ⟨hhere, hstep⟩ | ⟨hhere, hstep, hoccupy⟩)
    · rfl
    · simp only [settle, attempt, bind_eq_ok_iff, requireTile_eq_ok_iff]
      refine ⟨_, hhere, ?_⟩
      rw [hstep]
      rfl
    · simp only [settle, attempt, bind_eq_ok_iff, requireTile_eq_ok_iff]
      refine ⟨_, hhere, ?_⟩
      rw [hstep]
      exact bind_eq_ok_iff.2 ⟨_, hoccupy, rfl⟩

namespace Settled

variable {wish : Option Direction} {o : Outcome}

theorem kind?_eq (h : Settled board rules p a wish q o) : q.kind? b = p.kind? b := by
  cases h with
  | idle => rfl
  | blocked => rfl
  | moved _ _ hoccupy => exact Population.kind?_occupy hoccupy

theorem count_eq (h : Settled board rules p a wish q o) : q.count = p.count := by
  cases h with
  | idle => rfl
  | blocked => rfl
  | moved _ _ hoccupy => exact Population.count_occupy hoccupy

theorem tileCount_eq (h : Settled board rules p a wish q o) : q.tileCount = p.tileCount := by
  cases h with
  | idle => rfl
  | blocked => rfl
  | moved _ _ hoccupy => exact Population.tileCount_occupy hoccupy

theorem consistent (h : Settled board rules p a wish q o) (hp : p.Consistent) : q.Consistent := by
  cases h with
  | idle => exact hp
  | blocked => exact hp
  | moved _ _ hoccupy => exact hp.occupy hoccupy

/-- Only the agent whose wish it is changes its tile. -/
theorem tile?_of_ne (h : Settled board rules p a wish q o) (hb : b ≠ a) :
    q.tile? b = p.tile? b := by
  cases h with
  | idle => rfl
  | blocked => rfl
  | moved _ _ hoccupy => rw [Population.tile?_occupy hoccupy, if_neg hb]

/-- Nobody is taken off the board. -/
theorem isSome_tile? (h : Settled board rules p a wish q o) (hb : (p.tile? b).isSome) :
    (q.tile? b).isSome := by
  cases h with
  | idle => exact hb
  | blocked => exact hb
  | moved _ _ hoccupy =>
    rw [Population.tile?_occupy hoccupy]
    split
    · rfl
    · exact hb

end Settled

/-- All wishes are settled if the first one is, and then the others from where it leaves
everybody. -/
theorem settleAll_cons_eq_ok_iff {i : Nat} {wish : Option Direction}
    {rest : List (Option Direction)} {outcomes : List Outcome} :
    settleAll board rules i (wish :: rest) p = (q, .ok outcomes) ↔
      ∃ p' o os, Settled board rules p ⟨i⟩ wish p' o ∧
        settleAll board rules (i + 1) rest p' = (q, .ok os) ∧ outcomes = o :: os := by
  simp only [settleAll]
  cases h : settle board rules p ⟨i⟩ wish with
  | error cause => simp [← settle_eq_ok_iff, h]
  | ok first =>
    obtain ⟨p', o⟩ := first
    simp only [← settle_eq_ok_iff, h, Except.ok.injEq, Prod.mk.injEq, and_assoc,
      exists_and_left, exists_eq_left']
    rcases settleAll board rules (i + 1) rest p' with ⟨q', _ | os⟩ <;>
      simp [Except.map, eq_comm, and_assoc]

/-- A relation that holds between the populations before and after any one wish, and that can be
chained, holds between the populations before and after all of them. -/
theorem settleAll_induction {R : Population → Population → Prop} (refl : ∀ p, R p p)
    (trans : ∀ {p q r}, R p q → R q r → R p r)
    (step : ∀ {p a wish q o}, Settled board rules p a wish q o → R p q) (i : Nat)
    (wishes : List (Option Direction)) (p : Population) :
    R p (settleAll board rules i wishes p).1 := by
  induction wishes generalizing i p with
  | nil => exact refl p
  | cons wish rest ih =>
    simp only [settleAll]
    split
    · exact refl p
    · next p' o h => exact trans (step (settle_eq_ok_iff.1 h)) (ih (i + 1) p')

theorem tileCount_settleAll (i : Nat) (wishes : List (Option Direction)) :
    (settleAll board rules i wishes p).1.tileCount = p.tileCount :=
  settleAll_induction (R := fun p q => q.tileCount = p.tileCount) (fun _ => rfl)
    (fun h h' => h'.trans h) Settled.tileCount_eq i wishes p

theorem isSome_tile?_settleAll (ha : (p.tile? a).isSome) (i : Nat)
    (wishes : List (Option Direction)) :
    ((settleAll board rules i wishes p).1.tile? a).isSome :=
  settleAll_induction (R := fun p q => (p.tile? a).isSome → (q.tile? a).isSome) (fun _ => id)
    (fun h h' => h' ∘ h) Settled.isSome_tile? i wishes p ha

/-- The turns of the agents from `i` on move none of the agents before, and none of the agents after
them. -/
theorem tile?_settleAll_of_outside {i : Nat} {wishes : List (Option Direction)}
    (ha : a.index < i ∨ i + wishes.length ≤ a.index) :
    (settleAll board rules i wishes p).1.tile? a = p.tile? a := by
  induction wishes generalizing i p with
  | nil => rfl
  | cons wish rest ih =>
    rw [List.length_cons] at ha
    simp only [settleAll]
    split
    · rfl
    · next p' o h =>
      have hne : a ≠ ⟨i⟩ := by
        rintro rfl
        exact absurd ha (by simp)
      calc (settleAll board rules (i + 1) rest p').1.tile? a
          = p'.tile? a := ih (by omega)
        _ = p.tile? a := (settle_eq_ok_iff.1 h).tile?_of_ne hne

/-- When the turn of agent `a` comes, the agents before it stand where they will stand in the end.
It and the agents after it stand where they stood. -/
structure Midway (p q : Population) (a : AgentId) (before : Population) : Prop where
  kind?_eq : ∀ b, before.kind? b = p.kind? b
  earlier : ∀ b, b.index < a.index → before.tile? b = q.tile? b
  later : ∀ b, a.index ≤ b.index → before.tile? b = p.tile? b
  consistent : p.Consistent → before.Consistent

/-- Every agent has one turn, and stays after it where it is then. -/
theorem exists_turn {i j : Nat} {wish : Option Direction} {wishes : List (Option Direction)}
    {outcomes : List Outcome} (h : settleAll board rules i wishes p = (q, .ok outcomes))
    (ha : a.index = i + j) (hwish : wishes[j]? = some wish) :
    ∃ before after o, outcomes[j]? = some o ∧ Settled board rules before a wish after o ∧
      Midway p q a before ∧ q.tile? a = after.tile? a := by
  induction wishes generalizing i j p outcomes with
  | nil => simp at hwish
  | cons first rest ih =>
    obtain ⟨p', o, os, hsettled, hrest, rfl⟩ := settleAll_cons_eq_ok_iff.1 h
    cases j with
    | zero =>
      -- It is the turn of `a`. Whoever comes before it has moved for good, and `a` moves no more.
      obtain rfl : a = ⟨i⟩ := congrArg AgentId.mk ha
      obtain rfl : first = wish := Option.some.inj hwish
      have hlater : (settleAll board rules (i + 1) rest p').1.tile? ⟨i⟩ = p'.tile? ⟨i⟩ :=
        tile?_settleAll_of_outside (.inl (Nat.lt_succ_self i))
      have hearlier (b : AgentId) (hb : b.index < i) : p.tile? b = q.tile? b := by
        have hsame : (settleAll board rules i (first :: rest) p).1.tile? b = p.tile? b :=
          tile?_settleAll_of_outside (.inl hb)
        rw [← hsame, h]
      rw [hrest] at hlater
      exact ⟨p, p', o, rfl, hsettled, ⟨fun _ => rfl, hearlier, fun _ _ => rfl, id⟩, hlater⟩
    | succ j =>
      -- It is somebody else's turn, who comes before `a` and has moved when the turn of `a` comes.
      obtain ⟨before, after, o', ho', hturn, hmidway, hafter⟩ := ih hrest (by omega) hwish
      refine ⟨before, after, o', ho', hturn, ⟨?_, hmidway.earlier, ?_, ?_⟩, hafter⟩
      · intro b
        rw [hmidway.kind?_eq, hsettled.kind?_eq]
      · intro b hb
        have hne : b ≠ ⟨i⟩ := by
          rintro rfl
          simp only at hb
          omega
        rw [hmidway.later b hb, hsettled.tile?_of_ne hne]
      · intro hp
        exact hmidway.consistent (hsettled.consistent hp)

/-- A wish of somebody who stands somewhere is settled, whatever becomes of it: the only tiles that
are open are tiles of the board, and the population reaches that far. -/
theorem exists_settled {wish : Option Direction} (hroom : board.tileCount ≤ p.tileCount)
    (hplaced : wish.isSome → (p.tile? a).isSome) :
    ∃ q o, Settled board rules p a wish q o := by
  cases wish with
  | none => exact ⟨p, _, .idle⟩
  | some d =>
    obtain ⟨here, hhere⟩ := Option.isSome_iff_exists.1 (hplaced rfl)
    cases hstep : (movingView board rules p).graph.step? here d a with
    | none => exact ⟨p, _, .blocked hhere hstep⟩
    | some there =>
      -- The only thing that could still be refused is a tile out of range.
      have hopen := (MoveGraph.step?_eq_some_iff.1 hstep).2
      obtain ⟨k, -, hadmits, -⟩ := View.accessible_iff.1 hopen
      have hthere : there.index < p.tileCount :=
        Nat.lt_of_lt_of_le (Board.admits_lt hadmits) hroom
      exact ⟨_, _, .moved hhere hstep
        (Population.occupy_eq_ok_iff.2 ⟨Population.lt_count_of_tile? hhere, hthere, rfl⟩)⟩

/-- The second pass cannot fail for the wishes that the first one lets through. -/
theorem exists_settleAll_eq_ok {i : Nat} {wishes : List (Option Direction)}
    (hroom : board.tileCount ≤ p.tileCount)
    (hplaced : ∀ (j : Nat) (d : Direction), wishes[j]? = some (some d) →
      (p.tile? ⟨i + j⟩).isSome) :
    ∃ outcomes, (settleAll board rules i wishes p).2 = .ok outcomes := by
  induction wishes generalizing i p with
  | nil => exact ⟨[], rfl⟩
  | cons wish rest ih =>
    have hhead : wish.isSome → (p.tile? ⟨i⟩).isSome := by
      intro hwish
      obtain ⟨d, rfl⟩ := Option.isSome_iff_exists.1 hwish
      exact hplaced 0 d rfl
    obtain ⟨p', o, hsettled⟩ : ∃ p' o, Settled board rules p ⟨i⟩ wish p' o :=
      exists_settled hroom hhead
    have hroom' : board.tileCount ≤ p'.tileCount := by rwa [hsettled.tileCount_eq]
    -- Nobody is taken off the board, so the later wishes still come from somewhere.
    obtain ⟨outcomes, hrest⟩ := ih (i := i + 1) hroom' fun j d hd =>
      hsettled.isSome_tile? (by
        rw [Nat.add_right_comm, Nat.add_assoc]
        exact hplaced (j + 1) d hd)
    exact ⟨o :: outcomes, by simp [settleAll, settle_eq_ok_iff.2 hsettled, hrest, Except.map]⟩

end MazeChase
