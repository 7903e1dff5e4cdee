import MazeChase.Proofs.Abort
import MazeChase.Proofs.History
import MazeChase.Proofs.Lineup

/-!
# Who meets whom

A player and a ghost meet if they stand on one tile. The encounters of a game are the list of all
meetings: each has one entry, with its tile and the tick, there is no other entry, and the entries
ascend by player and then by ghost. There is only one such list. So the crowds, from which it is
read, leave no trace in it of who arrived on a tile before whom.

The report of a tick has the list for the places to which the tick has led, and names the tick that
was played and not the next one.

## Main definitions

* `Population.Meets` — a player and a ghost on one tile
* `Encounter.Precedes` — the order of the list
* `ListsMeetings` — a list of all meetings

## Main results

* `ListsMeetings.unique` — there is one such list
* `listsMeetings_encountersAt` — the encounters are such a list
* `Game.meetings_listed` — so they are before and after every tick
-/

namespace MazeChase

/-- A player and a ghost stand on a tile. -/
structure Population.Meets (p : Population) (player ghost : AgentId) (t : TileId) : Prop where
  isPlayer : p.kind? player = some .player
  isGhost : p.isGhost ghost = true
  player_tile : p.tile? player = some t
  ghost_tile : p.tile? ghost = some t

/-- An encounter stands before another one: it is one of an earlier player, or one of the same
player with an earlier ghost. -/
def Encounter.Precedes (e f : Encounter) : Prop :=
  e.player.index < f.player.index ∨ e.player = f.player ∧ e.ghost.index < f.ghost.index

/-- A list tells of all meetings at a tick. -/
structure ListsMeetings (tick : Tick) (p : Population) (es : List Encounter) : Prop where
  /-- A player and a ghost who meet have one entry, -/
  one_entry : ∀ player ghost t, p.Meets player ghost t →
    es.filter (fun e => e.player = player ∧ e.ghost = ghost) = [⟨tick, t, ghost, player⟩]
  /-- nobody else has one, -/
  no_other : ∀ e ∈ es, e.tick = tick ∧ p.Meets e.player e.ghost e.tile
  /-- and entries ascend. -/
  ascending : es.Pairwise Encounter.Precedes

variable {p : Population} {tick : Tick} {es es' : List Encounter} {e f : Encounter}

theorem Encounter.Precedes.not_precedes (h : e.Precedes f) : ¬ f.Precedes e := by
  intro h'
  rcases h with hlt | ⟨heq, hlt⟩ <;> rcases h' with hlt' | ⟨heq', hlt'⟩
  · exact Nat.lt_asymm hlt hlt'
  · exact Nat.lt_irrefl _ (heq' ▸ hlt)
  · exact Nat.lt_irrefl _ (heq ▸ hlt')
  · exact Nat.lt_asymm hlt hlt'

/-- Two ascending lists of encounters are the same if they have the same entries. -/
theorem eq_of_precedes (h : es.Pairwise Encounter.Precedes) (h' : es'.Pairwise Encounter.Precedes)
    (hmem : ∀ e, e ∈ es ↔ e ∈ es') : es = es' := by
  have : Std.Irrefl Encounter.Precedes := ⟨fun e he => he.not_precedes he⟩
  have : Std.Antisymm Encounter.Precedes := ⟨fun e f hef hfe => absurd hfe hef.not_precedes⟩
  exact h.eq_of_mem_iff h' hmem

namespace ListsMeetings

theorem mem_iff (h : ListsMeetings tick p es) :
    e ∈ es ↔ e.tick = tick ∧ p.Meets e.player e.ghost e.tile := by
  constructor
  · exact h.no_other e
  · rintro ⟨rfl, hmeets⟩
    have hentry : e ∈ es.filter fun f => f.player = e.player ∧ f.ghost = e.ghost := by
      rw [h.one_entry _ _ _ hmeets]
      exact List.mem_singleton_self e
    exact (List.mem_filter.1 hentry).1

theorem unique (h : ListsMeetings tick p es) (h' : ListsMeetings tick p es') : es = es' :=
  eq_of_precedes h.ascending h'.ascending fun _ => h.mem_iff.trans h'.mem_iff.symm

end ListsMeetings

/-- The entries of one player have ascending ghosts, and players ascend. -/
theorem pairwise_encountersAt (hp : p.Consistent) (tick : Tick) :
    (encountersAt tick p).Pairwise Encounter.Precedes := by
  rw [encountersAt, List.pairwise_flatMap]
  constructor
  · intro player _
    split
    · exact .nil
    · next t _ =>
      rw [List.pairwise_map]
      exact (pairwise_ghostsOn hp t).imp fun hlt => .inr ⟨rfl, hlt⟩
  · -- Entries of two players come in the order of the players, whoever the ghosts are.
    have hplayers : (p.agentsOfKind .player).Pairwise fun a b => a.index < b.index :=
      p.pairwise_agentIds.filter _
    refine hplayers.imp fun {a b} hlt e he f hf => .inl ?_
    cases ha : p.tile? a with
    | none => simp [ha] at he
    | some t =>
      cases hb : p.tile? b with
      | none => simp [hb] at hf
      | some u =>
        simp only [ha, hb, List.mem_map] at he hf
        obtain ⟨ghost, -, rfl⟩ := he
        obtain ⟨ghost', -, rfl⟩ := hf
        exact hlt

/-- While the two views agree the encounters are all meetings. -/
theorem listsMeetings_encountersAt (hp : p.Consistent) (tick : Tick) :
    ListsMeetings tick p (encountersAt tick p) where
  one_entry player ghost t hmeets := by
    refine eq_of_precedes ((pairwise_encountersAt hp tick).filter _) (List.pairwise_singleton _ _)
      fun e => ?_
    rw [List.mem_filter, mem_encountersAt hp, decide_eq_true_eq, List.mem_singleton]
    constructor
    · -- The tile of the entry is the one on which its player stands.
      rintro ⟨⟨rfl, -, -, -, htile⟩, rfl, rfl⟩
      obtain rfl : t = e.tile := Option.some.inj (hmeets.player_tile.symm.trans htile)
      rfl
    · rintro rfl
      exact ⟨⟨rfl, hmeets.isGhost, hmeets.isPlayer, hmeets.ghost_tile, hmeets.player_tile⟩,
        rfl, rfl⟩
  no_other e he := by
    obtain ⟨htick, hghost, hplayer, htile, htile'⟩ := (mem_encountersAt hp).1 he
    exact ⟨htick, hplayer, hghost, htile', htile⟩
  ascending := pairwise_encountersAt hp tick

/-- Nothing but the encounters is a list of all meetings. -/
theorem listsMeetings_iff (hp : p.Consistent) :
    ListsMeetings tick p es ↔ es = encountersAt tick p := by
  constructor
  · exact fun h => h.unique (listsMeetings_encountersAt hp tick)
  · rintro rfl
    exact listsMeetings_encountersAt hp tick

namespace Game

/-- **All meetings are listed, and nothing else.** In every game whose views agree, and so in every
game that comes about, the encounters are the one list of all meetings at the tick that is played
next. What a tick reports that succeeds is the one list of all meetings in the places to which it
has led, at the tick that was played. -/
theorem meetings_listed :
    (∀ g : Game, g.Reachable → g.population.Consistent) ∧
    ∀ g : Game, g.population.Consistent →
      (∀ es, ListsMeetings g.tick g.population es ↔ es = g.encounters) ∧
      ∀ report, g.step.result = .ok report →
        ∀ es, ListsMeetings g.tick g.step.game.population es ↔ es = report.encounters := by
  refine ⟨fun g hg => hg.coherent.consistent, fun g hg => ⟨fun es => listsMeetings_iff hg, ?_⟩⟩
  intro report hreport es
  rw [listsMeetings_iff (consistent_step hg), encounters_of_ok hreport]

/-- Two players and two ghosts on the first tile of the corridor, who came there in the reverse
order of their identifiers; one ghost is about to leave. -/
def throng : Game where
  config := {}
  board := .corridor
  population := ((((Population.ofKinds [.blinky, .player, .pinky, .player] 3).changed
    (.occupy ⟨3⟩ ⟨0⟩)).changed (.occupy ⟨2⟩ ⟨0⟩)).changed
    (.occupy ⟨1⟩ ⟨0⟩)).changed (.occupy ⟨0⟩ ⟨0⟩)
  memories := Memory.ofCount 4 0
  strategy := .unassigned
  steering := [none, none, some .east, none]

/-- The player who came first meets the ghost that came last before the tick and after it, and has
one entry for it in either list. The clock has gone on, but the report names the tick that was
played. -/
theorem meetings_listed_throng :
    throng.population.Consistent ∧ throng.encounters.Pairwise Encounter.Precedes ∧
      throng.encounters.filter (fun e => e.player = ⟨3⟩ ∧ e.ghost = ⟨0⟩) =
        [⟨.zero, ⟨0⟩, ⟨0⟩, ⟨3⟩⟩] ∧
      throng.step.game.tick = ⟨1⟩ ∧
      ∃ report, throng.step.result = .ok report ∧
        report.encounters.filter (fun e => e.player = ⟨3⟩ ∧ e.ghost = ⟨0⟩) =
          [⟨.zero, ⟨0⟩, ⟨0⟩, ⟨3⟩⟩] := by
  have hreachable : throng.population.Reachable :=
    .changed (.changed (.changed (.changed (.ofKinds [.blinky, .player, .pinky, .player] 3)
      (.occupy ⟨3⟩ ⟨0⟩)) (.occupy ⟨2⟩ ⟨0⟩)) (.occupy ⟨1⟩ ⟨0⟩)) (.occupy ⟨0⟩ ⟨0⟩)
  obtain ⟨-, hlisted⟩ := meetings_listed
  obtain ⟨hbefore, hafter⟩ := hlisted throng hreachable.consistent
  have hlist := (hbefore _).2 rfl
  have hreport := (hafter _ rfl _).2 rfl
  exact ⟨hreachable.consistent, hlist.ascending, hlist.one_entry _ _ _ ⟨rfl, rfl, rfl, rfl⟩, rfl,
    _, rfl, hreport.one_entry _ _ _ ⟨rfl, rfl, rfl, rfl⟩⟩

end Game

end MazeChase
