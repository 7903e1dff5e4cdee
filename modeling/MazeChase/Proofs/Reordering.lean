import MazeChase.Proofs.Arrivals
import MazeChase.Proofs.Unhindered

/-!
# Moves in another order

A tick makes its moves in the order of the agents. Here the moves of some agents are made one after
the other in any order, each checked, as in a tick, against where everybody stands by then.

If ghosts do not block ghosts the order does not matter. A move is then open or not by the terrain
alone, and where it leads depends on nothing but the kind and the tile of the agent that makes it,
which no other move touches. So what becomes of each move can be told from the population before all
of them. Two agents may change places, follow each other in a chain or meet on one tile; whoever is
first, they end where they would end otherwise. Only the crowds remember who came first.

## Main definitions

* `attemptAll` — some moves, one after the other
* `Population.Musters` — moves of agents that stand somewhere, at most one for each agent
* `Population.way?`, `Population.verdict`, `Population.goesTo` — a move seen from before all moves
* `Population.SameButArrivals` — populations that differ in nothing but who arrived first

## Main results

* `exists_attemptAll` — what some moves do, without a word on their order
* `attemptAll_movesOf` — a tick is one of the orders
* `reordered_moves` — the order of the moves does not matter
-/

namespace MazeChase

variable {board : Board} {rules : Rules} {p q q' : Population} {a b : AgentId} {d : Direction}
  {t : TileId} {o : Outcome} {moves moves' : List (AgentId × Direction)}

/-- The moves of some agents in the order of the list, and what became of each. A move that fails
stops the rest. -/
def attemptAll (board : Board) (rules : Rules) : List (AgentId × Direction) → Population →
    Except PlacementError (Population × List (AgentId × Outcome))
  | [], p => .ok (p, [])
  | (a, d) :: rest, p => do
    let (p', o) ← attempt board rules p a d
    let (q, reports) ← attemptAll board rules rest p'
    return (q, (a, o) :: reports)

theorem attemptAll_cons_eq_ok_iff {rest : List (AgentId × Direction)}
    {reports : List (AgentId × Outcome)} :
    attemptAll board rules ((a, d) :: rest) p = .ok (q, reports) ↔
      ∃ p' o reports', Settled board rules p a (some d) p' o ∧
        attemptAll board rules rest p' = .ok (q, reports') ∧ reports = (a, o) :: reports' := by
  simp only [attemptAll, bind_eq_ok_iff, Prod.exists, ← settle_eq_ok_iff, settle]
  constructor
  · rintro ⟨p', o, hfirst, q', reports', hrest, h⟩
    obtain ⟨rfl, rfl⟩ := Prod.mk.inj (Except.ok.inj h)
    exact ⟨p', o, reports', hfirst, hrest, rfl⟩
  · rintro ⟨p', o, reports', hfirst, hrest, rfl⟩
    exact ⟨p', o, hfirst, q, reports', hrest, rfl⟩

/-! ### The order of a tick -/

/-- The moves for which agents `i`, `i + 1`, … wish, in the order of the agents. -/
def movesOf (i : Nat) : List (Option Direction) → List (AgentId × Direction)
  | [] => []
  | none :: rest => movesOf (i + 1) rest
  | some d :: rest => (⟨i⟩, d) :: movesOf (i + 1) rest

/-- A tick makes the moves that are wished for in the order of the agents. -/
theorem attemptAll_movesOf {i : Nat} {wishes : List (Option Direction)} {outcomes : List Outcome}
    (h : settleAll board rules i wishes p = (q, .ok outcomes)) :
    ∃ reports, attemptAll board rules (movesOf i wishes) p = .ok (q, reports) := by
  induction wishes generalizing i p outcomes with
  | nil =>
    obtain ⟨rfl, -⟩ := Prod.mk.inj h
    exact ⟨[], rfl⟩
  | cons wish rest ih =>
    obtain ⟨p', o, os, hfirst, hrest, -⟩ := settleAll_cons_eq_ok_iff.1 h
    obtain ⟨reports, hreports⟩ := ih hrest
    cases wish with
    | none =>
      -- Whoever wishes to stay leaves everybody where they are.
      cases hfirst
      exact ⟨reports, hreports⟩
    | some d => exact ⟨_, attemptAll_cons_eq_ok_iff.2 ⟨p', o, reports, hfirst, hreports, rfl⟩⟩

/-! ### A move seen from before -/

namespace Population

/-- Some moves are asked of agents that stand somewhere, and no agent is asked twice. -/
structure Musters (p : Population) (moves : List (AgentId × Direction)) : Prop where
  nodup : (moves.map Prod.fst).Nodup
  placed : ∀ m ∈ moves, (p.tile? m.1).isSome

/-- The tile to which agent `a` can go in direction `d` if nobody is in the way. -/
def way? (p : Population) (board : Board) (a : AgentId) (d : Direction) : Option TileId := do
  let k ← p.kind? a
  let t ← p.tile? a
  (board.neighbor t d).filter fun u => board.admits u k

/-- What becomes of a move if nobody is in the way. -/
def verdict (p : Population) (board : Board) (a : AgentId) (d : Direction) : Outcome :=
  if (p.way? board a d).isSome then .moved else .blocked

/-- Where a move leaves its agent if nobody is in the way. -/
def goesTo (p : Population) (board : Board) (a : AgentId) (d : Direction) : Option TileId :=
  (p.way? board a d).or (p.tile? a)

/-- The way of an agent depends on no other agent. -/
theorem way?_congr (hkind : q.kind? a = p.kind? a) (htile : q.tile? a = p.tile? a) :
    q.way? board a d = p.way? board a d := by
  rw [way?, way?, hkind, htile]

theorem verdict_congr (hkind : q.kind? a = p.kind? a) (htile : q.tile? a = p.tile? a) :
    q.verdict board a d = p.verdict board a d := by
  rw [verdict, verdict, way?_congr hkind htile]

theorem goesTo_congr (hkind : q.kind? a = p.kind? a) (htile : q.tile? a = p.tile? a) :
    q.goesTo board a d = p.goesTo board a d := by
  rw [goesTo, goesTo, way?_congr hkind htile, htile]

theorem Musters.of_perm (h : p.Musters moves) (hperm : moves.Perm moves') : p.Musters moves' where
  nodup := (hperm.map Prod.fst).nodup_iff.1 h.nodup
  placed m hm := h.placed m (hperm.mem_iff.2 hm)

/-- If ghosts do not block ghosts, the step that is checked when a move is made is the way. -/
theorem step?_eq_way? (hoff : rules.ghostsBlockGhosts = false) (ht : p.tile? a = some t) :
    (movingView board rules p).graph.step? t d a = p.way? board a d := by
  obtain ⟨k, hk⟩ := exists_kind? (lt_count_of_tile? ht)
  rw [View.step?_of_spares (v := movingView board rules p) hk (rules.spares_of_off hoff k), way?,
    hk, ht]
  rfl

end Population

/-- If ghosts do not block ghosts, what becomes of a move and where it leaves its agent can be seen
from before. -/
theorem Settled.eq_of_off (h : Settled board rules p a (some d) q o)
    (hoff : rules.ghostsBlockGhosts = false) :
    o = p.verdict board a d ∧ q.tile? a = p.goesTo board a d := by
  cases h with
  | blocked hhere hstep =>
    rw [Population.step?_eq_way? hoff hhere] at hstep
    simp [Population.verdict, Population.goesTo, hstep]
  | moved hhere hstep hoccupy =>
    rw [Population.step?_eq_way? hoff hhere] at hstep
    simp [Population.verdict, Population.goesTo, hstep, Population.tile?_occupy hoccupy]

/-! ### All moves -/

/-- What some moves leave behind, told from the population before them: each comes to what it comes
to when it is made alone. The order in which they are made plays no part. -/
structure AllMade (board : Board) (p : Population) (moves : List (AgentId × Direction))
    (q : Population) : Prop where
  consistent : q.Consistent
  kind?_eq : ∀ a, q.kind? a = p.kind? a
  movers : ∀ m ∈ moves, q.tile? m.1 = p.goesTo board m.1 m.2
  others : ∀ a, a ∉ moves.map Prod.fst → q.tile? a = p.tile? a

/-- If ghosts do not block ghosts, no move fails, and the moves come to what they come to alone. -/
theorem exists_attemptAll (hp : p.Consistent) (hroom : board.tileCount ≤ p.tileCount)
    (hoff : rules.ghostsBlockGhosts = false) (hmoves : p.Musters moves) :
    ∃ q, attemptAll board rules moves p =
        .ok (q, moves.map fun m => (m.1, p.verdict board m.1 m.2)) ∧ AllMade board p moves q := by
  -- The first move changes the population from which the others are made, but neither the kind nor
  -- the tile of any agent that is still to move.
  induction moves generalizing p with
  | nil => exact ⟨p, rfl, hp, fun _ => rfl, by simp, fun _ _ => rfl⟩
  | cons m rest ih =>
    obtain ⟨a, d⟩ := m
    obtain ⟨hfresh, hnodup⟩ := List.nodup_cons.1 hmoves.nodup
    have hplaced : (p.tile? a).isSome := hmoves.placed _ List.mem_cons_self
    obtain ⟨p', o, hfirst⟩ : ∃ p' o, Settled board rules p a (some d) p' o :=
      exists_settled hroom fun _ => hplaced
    obtain ⟨rfl, harrives⟩ := hfirst.eq_of_off hoff
    have hkind (b : AgentId) : p'.kind? b = p.kind? b := hfirst.kind?_eq
    have hstays (m : AgentId × Direction) (hm : m ∈ rest) : p'.tile? m.1 = p.tile? m.1 := by
      have hmem : m.1 ∈ rest.map Prod.fst := List.mem_map_of_mem hm
      exact hfirst.tile?_of_ne (ne_of_mem_of_not_mem hmem hfresh)
    have hrest : p'.Musters rest :=
      ⟨hnodup, fun m hm => by
        rw [hstays m hm]
        exact hmoves.placed m (List.mem_cons_of_mem _ hm)⟩
    obtain ⟨q, hq, hmade⟩ :=
      ih (hfirst.consistent hp) (by rwa [hfirst.tileCount_eq]) hrest
    refine ⟨q, attemptAll_cons_eq_ok_iff.2 ⟨p', _, _, hfirst, hq, ?_⟩, hmade.consistent, ?_, ?_, ?_⟩
    · rw [List.map_cons, List.cons.injEq]
      refine ⟨rfl, List.map_congr_left fun m hm => ?_⟩
      rw [Population.verdict_congr (hkind m.1) (hstays m hm)]
    · intro b
      rw [hmade.kind?_eq, hkind]
    · intro m hm
      rcases List.mem_cons.1 hm with rfl | hm
      · rw [hmade.others a hfresh, harrives]
      · rw [hmade.movers m hm, Population.goesTo_congr (hkind m.1) (hstays m hm)]
    · intro b hb
      rw [List.map_cons, List.mem_cons, not_or] at hb
      rw [hmade.others b hb.2, hfirst.tile?_of_ne hb.1]

/-- Everybody stands on the same tile in both populations, and every crowd has the same members; but
they may have arrived in another order. -/
structure Population.SameButArrivals (q q' : Population) : Prop where
  tile?_eq : ∀ a, q'.tile? a = q.tile? a
  occupants_perm : ∀ t, (q'.occupants t).Perm (q.occupants t)

/-- In consistent populations the tiles of the agents decide who is in which crowd. -/
theorem Population.Consistent.sameButArrivals (hq : q.Consistent) (hq' : q'.Consistent)
    (htile : ∀ a, q'.tile? a = q.tile? a) : q.SameButArrivals q' where
  tile?_eq := htile
  occupants_perm t := by
    apply (List.perm_ext_iff_of_nodup (hq'.nodup t) (hq.nodup t)).2
    intro a
    rw [hq'.mem_occupants, hq.mem_occupants, htile]

theorem AllMade.sameButArrivals (h : AllMade board p moves q) (h' : AllMade board p moves' q')
    (hperm : moves.Perm moves') : q.SameButArrivals q' := by
  apply h.consistent.sameButArrivals h'.consistent
  intro a
  by_cases ha : a ∈ moves.map Prod.fst
  · obtain ⟨m, hm, rfl⟩ := List.mem_map.1 ha
    rw [h.movers m hm, h'.movers m (hperm.mem_iff.1 hm)]
  · have ha' : a ∉ moves'.map Prod.fst := by rwa [← (hperm.map Prod.fst).mem_iff]
    rw [h.others a ha, h'.others a ha']

/-- **The order of the moves does not matter.** If ghosts do not block ghosts, the population
reaches as far as the board, and no agent is asked twice, the moves can be made in any order. None
of them fails; everybody ends on the same tile, every crowd has the same members, and of each agent
the same is reported. -/
theorem reordered_moves (hp : p.Consistent) (hroom : board.tileCount ≤ p.tileCount)
    (hoff : rules.ghostsBlockGhosts = false) (hmoves : p.Musters moves)
    (hperm : moves.Perm moves') :
    ∃ q reports q' reports', attemptAll board rules moves p = .ok (q, reports) ∧
      attemptAll board rules moves' p = .ok (q', reports') ∧ q.SameButArrivals q' ∧
      reports.Perm reports' ∧ reports.map Prod.fst = moves.map Prod.fst := by
  obtain ⟨q, hq, hmade⟩ := exists_attemptAll hp hroom hoff hmoves
  obtain ⟨q', hq', hmade'⟩ := exists_attemptAll hp hroom hoff (hmoves.of_perm hperm)
  refine ⟨q, _, q', _, hq, hq', hmade.sameButArrivals hmade' hperm, hperm.map _, ?_⟩
  rw [List.map_map]
  rfl

/-- Four agents in the corridor: the player in the middle, Blinky and Clyde at the west end, and
Pinky at the east end. -/
def Population.quartet : Population :=
  (ofKinds [.player, .blinky, .pinky, .clyde] 3).after
    [.occupy ⟨0⟩ ⟨1⟩, .occupy ⟨1⟩ ⟨0⟩, .occupy ⟨2⟩ ⟨2⟩, .occupy ⟨3⟩ ⟨0⟩]

/-- The player and Pinky change places, Blinky follows the player, and Clyde cannot go on. -/
def Population.scramble : List (AgentId × Direction) :=
  [(⟨1⟩, .east), (⟨0⟩, .east), (⟨3⟩, .west), (⟨2⟩, .west)]

open Population (quartet scramble) in
/-- Forwards and backwards the moves come to the same, though Blinky and Pinky arrive in another
order. -/
theorem reordered_moves_scramble :
    ∃ q reports q' reports', attemptAll .corridor {} scramble quartet = .ok (q, reports) ∧
      attemptAll .corridor {} scramble.reverse quartet = .ok (q', reports') ∧
      q.SameButArrivals q' ∧ reports.Perm reports' ∧ (⟨3⟩, .blocked) ∈ reports' ∧
      q.occupants ⟨1⟩ = [⟨1⟩, ⟨2⟩] ∧ q'.occupants ⟨1⟩ = [⟨2⟩, ⟨1⟩] := by
  have hp : quartet.Consistent :=
    (Population.reachable_after (.ofKinds _ _) _).consistent
  have hroom : Board.corridor.tileCount ≤ quartet.tileCount := by decide
  have hoff : ({} : Rules).ghostsBlockGhosts = false := rfl
  have hmoves : quartet.Musters scramble := ⟨by decide, by decide⟩
  obtain ⟨q, reports, q', reports', hq, hq', hsame, hreports, -⟩ :=
    reordered_moves hp hroom hoff hmoves scramble.reverse_perm.symm
  have hforth : (attemptAll .corridor {} scramble quartet).map (fun r => r.1.occupants ⟨1⟩) =
      .ok [⟨1⟩, ⟨2⟩] := rfl
  have hback : (attemptAll .corridor {} scramble.reverse quartet).map
      (fun r => (r.1.occupants ⟨1⟩, r.2)) =
      .ok ([⟨2⟩, ⟨1⟩], [(⟨2⟩, .moved), (⟨3⟩, .blocked), (⟨0⟩, .moved), (⟨1⟩, .moved)]) := rfl
  rw [hq] at hforth
  rw [hq'] at hback
  obtain ⟨hcrowd, rfl⟩ := Prod.mk.inj (Except.ok.inj hback)
  exact ⟨q, reports, q', _, hq, hq', hsame, hreports, by decide, Except.ok.inj hforth, hcrowd⟩

end MazeChase
