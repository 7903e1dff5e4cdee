import Mathlib.Data.List.Sort
import Mathlib.Data.Nat.Find
import MazeChase.Game.Basic

/-!
# Who stands where, without crowds

A lineup is the kind and the tile of each agent and nothing else. Everything that a game reads off
the crowds of a population can be read off a lineup as well, by looking through all agents: whether
another ghost stands on a tile, and who meets whom. What the lineup does not tell is in which order
the agents on a tile arrived there, and nothing that is read off depends on it.

## Main definitions

* `AgentId.IsFirst` — the first agent of whom something holds
* `Lineup`, `Lineup.kind?`, `Lineup.tile?` — kinds and tiles
* `Lineup.ghostBeside`, `Lineup.encounters`, `Lineup.target` — what is read off them
* `Lineup.population` — the population in which agents arrived in the order of their identifiers

## Main results

* `eq_of_ascending` — ascending lists are told apart by their members
* `findSome?_eq_some_iff_of_ascending` — a scan of an ascending list finds the least entry
* `mem_encountersAt` — who meets whom
* `heldByGhost_eq_ghostBeside` — a crowd holds another ghost exactly if the lineup does
* `encountersAt_eq_encounters` — the encounters are the pairs of a player and a ghost on one tile
* `Lineup.consistent_population` — a lineup on a board makes a consistent population
-/

namespace MazeChase

/-- Two ascending lists of agents are the same if they have the same members. -/
theorem eq_of_ascending {l l' : List AgentId} (h : l.Pairwise fun a b => a.index < b.index)
    (h' : l'.Pairwise fun a b => a.index < b.index) (hmem : ∀ a, a ∈ l ↔ a ∈ l') : l = l' := by
  have : Std.Irrefl fun a b : AgentId => a.index < b.index := ⟨fun a => Nat.lt_irrefl a.index⟩
  have : Std.Antisymm fun a b : AgentId => a.index < b.index :=
    ⟨fun a b hab hba => absurd hba (Nat.lt_asymm hab)⟩
  exact h.eq_of_mem_iff h' hmem

/-- Agent `a` is the first of whom `P` holds. -/
structure AgentId.IsFirst (a : AgentId) (P : AgentId → Prop) : Prop where
  holds : P a
  before : ∀ b : AgentId, b.index < a.index → ¬ P b

/-- If something holds of anybody, there is a first of whom it holds. -/
theorem AgentId.exists_isFirst {P : AgentId → Prop} {a : AgentId} (ha : P a) :
    ∃ b : AgentId, b.IsFirst P := by
  classical
  have hexists : ∃ i, P ⟨i⟩ := ⟨a.index, ha⟩
  exact ⟨⟨Nat.find hexists⟩, Nat.find_spec hexists, fun b hlt => Nat.find_min hexists hlt⟩

/-- What a scan of an ascending list finds is what the least entry gives that gives anything. -/
theorem findSome?_eq_some_iff_of_ascending {α β : Type} {f : α → Option β} {b : β} {l : List α}
    {key : α → Nat} (h : l.Pairwise fun x y => key x < key y) :
    l.findSome? f = some b ↔
      ∃ x ∈ l, f x = some b ∧ ∀ y ∈ l, key y < key x → f y = none := by
  rw [List.findSome?_eq_some_iff]
  constructor
  · rintro ⟨before, x, after, rfl, hx, hbefore⟩
    refine ⟨x, by simp, hx, fun y hy hlt => ?_⟩
    obtain hy | hy := List.mem_append.1 hy
    · exact hbefore y hy
    · -- Neither `x` itself nor anything after it is less than `x`.
      obtain ⟨-, htail, -⟩ := List.pairwise_append.1 h
      rcases List.mem_cons.1 hy with rfl | hy
      · exact absurd hlt (Nat.lt_irrefl _)
      · exact absurd hlt (Nat.lt_asymm ((List.pairwise_cons.1 htail).1 y hy))
  · rintro ⟨x, hmem, hx, hleast⟩
    obtain ⟨before, after, rfl⟩ := List.append_of_mem hmem
    refine ⟨before, x, after, rfl, hx, fun y hy => ?_⟩
    obtain ⟨-, -, hcross⟩ := List.pairwise_append.1 h
    exact hleast y (List.mem_append_left _ hy) (hcross y hy x List.mem_cons_self)

/-- What a scan of an ascending list for a test finds is the least entry that passes it. -/
theorem find?_eq_some_iff_of_ascending {α : Type} {test : α → Bool} {x : α} {l : List α}
    {key : α → Nat} (h : l.Pairwise fun x y => key x < key y) :
    l.find? test = some x ↔
      x ∈ l ∧ test x = true ∧ ∀ y ∈ l, key y < key x → test y = false := by
  rw [List.find?_eq_findSome?_guard, findSome?_eq_some_iff_of_ascending h]
  simp only [Option.guard_eq_some_iff, Option.guard_eq_none_iff]
  constructor
  · rintro ⟨x, hmem, ⟨rfl, hx⟩, hleast⟩
    exact ⟨hmem, hx, hleast⟩
  · rintro ⟨hmem, hx, hleast⟩
    exact ⟨x, hmem, ⟨rfl, hx⟩, hleast⟩

/-- The kind and the tile of each agent; an identifier is a place in the list. -/
abbrev Lineup := List Agent

namespace Lineup

/-- The identifiers of all agents, ascending. -/
def ids (l : Lineup) : List AgentId := (List.range l.length).map AgentId.mk

/-- The kind of an agent. -/
def kind? (l : Lineup) (a : AgentId) : Option AgentKind := l[a.index]?.map Agent.kind

/-- The tile on which an agent stands. -/
def tile? (l : Lineup) (a : AgentId) : Option TileId := l[a.index]?.bind Agent.tile

/-- Whether an agent is known and a ghost. -/
def isGhost (l : Lineup) (a : AgentId) : Bool := (l.kind? a).any AgentKind.isGhost

/-- Whether some other ghost than `a` stands on a tile. -/
def ghostBeside (l : Lineup) (t : TileId) (a : AgentId) : Bool :=
  l.ids.any fun b => b ≠ a && l.isGhost b && l.tile? b == some t

/-- All players, ascending. -/
def players (l : Lineup) : List AgentId := l.ids.filter fun a => l.kind? a == some .player

/-- The tile of the first player who stands somewhere. -/
def target (l : Lineup) : Option TileId := l.players.findSome? l.tile?

/-- The pairs of a player and a ghost who stand on one tile, by player and then by ghost. -/
def encounters (tick : Tick) (l : Lineup) : List Encounter :=
  l.players.flatMap fun player => l.ids.filterMap fun ghost =>
    if l.isGhost ghost = true ∧ l.tile? ghost = l.tile? player then
      (l.tile? player).map fun tile => { tick, tile, ghost, player }
    else none

/-- The population for `tileCount` tiles in which the agents on each tile arrived in the order of
their identifiers. -/
def population (l : Lineup) (tileCount : Nat) : Population where
  agents := l
  crowds := Array.ofFn fun t : Fin tileCount => l.ids.filter fun a => l.tile? a = some ⟨t⟩

/-- Whoever stands somewhere stands on one of the first `tileCount` tiles. -/
def Within (l : Lineup) (tileCount : Nat) : Prop :=
  ∀ a t, l.tile? a = some t → t.index < tileCount

variable {l : Lineup} {a b : AgentId} {t : TileId} {n : Nat}

theorem mem_ids : a ∈ l.ids ↔ a.index < l.length := by
  rcases a with ⟨i⟩
  simp [ids]

theorem pairwise_ids : l.ids.Pairwise fun a b => a.index < b.index :=
  List.pairwise_map.2 List.pairwise_lt_range

theorem nodup_ids : l.ids.Nodup := by
  refine pairwise_ids.imp ?_
  intro a b hab heq
  subst heq
  exact Nat.lt_irrefl _ hab

theorem mem_ids_of_tile? (h : l.tile? a = some t) : a ∈ l.ids := by
  simp only [tile?, Option.bind_eq_some_iff] at h
  obtain ⟨agent, hagent, -⟩ := h
  exact mem_ids.2 (List.getElem?_eq_some_iff.1 hagent).1

theorem ghostBeside_iff :
    l.ghostBeside t a = true ↔ ∃ b, b ≠ a ∧ l.isGhost b = true ∧ l.tile? b = some t := by
  simp only [ghostBeside, List.any_eq_true, Bool.and_eq_true, decide_eq_true_eq, beq_iff_eq]
  constructor
  · rintro ⟨b, -, ⟨hne, hghost⟩, htile⟩
    exact ⟨b, hne, hghost, htile⟩
  · rintro ⟨b, hne, hghost, htile⟩
    exact ⟨b, mem_ids_of_tile? htile, ⟨hne, hghost⟩, htile⟩

/-- Two lineups are the same if they say the same of every agent. -/
theorem ext_views {l l' : Lineup} (hkind : ∀ a, l.kind? a = l'.kind? a)
    (htile : ∀ a, l.tile? a = l'.tile? a) : l = l' := by
  apply List.ext_getElem?
  intro i
  have hk := hkind ⟨i⟩
  have ht := htile ⟨i⟩
  simp only [kind?, tile?] at hk ht
  cases h : l[i]? with
  | none => cases h' : l'[i]? <;> simp_all
  | some agent =>
    cases h' : l'[i]? with
    | none => simp_all
    | some agent' =>
      rcases agent with ⟨k, t⟩
      rcases agent' with ⟨k', t'⟩
      simp_all

theorem occupants_population (h : l.Within n) :
    (l.population n).occupants t = l.ids.filter fun a => l.tile? a = some t := by
  simp only [Population.occupants, population, Array.getElem?_ofFn]
  split
  · rfl
  · next ht =>
    -- A tile out of range has no crowd, and nobody stands there either.
    refine (List.filter_eq_nil_iff.2 fun a _ ha => ht ?_).symm
    exact h a t (of_decide_eq_true ha)

theorem consistent_population (h : l.Within n) : (l.population n).Consistent where
  mem_occupants a t := by
    rw [occupants_population h, List.mem_filter, decide_eq_true_eq]
    exact ⟨And.right, fun ht => ⟨mem_ids_of_tile? ht, ht⟩⟩
  nodup t := by
    rw [occupants_population h]
    exact nodup_ids.filter _

end Lineup

/-! ### What is read off the crowds -/

variable {p : Population}

/-- The lineup of a population; who arrived before whom is forgotten. -/
abbrev Population.lineup (p : Population) : Lineup := p.agents

theorem Population.Consistent.within (h : p.Consistent) : p.lineup.Within p.tileCount :=
  fun _ _ ht => (h.lt_of_tile? ht).2

theorem heldByGhost_eq_ghostBeside {v : View} (h : v.population.Consistent) (t : TileId)
    (a : AgentId) : v.heldByGhost t a = v.population.lineup.ghostBeside t a := by
  rw [Bool.eq_iff_iff, View.heldByGhost_iff h, Lineup.ghostBeside_iff]
  exact Iff.rfl

namespace Population

variable {q : Population} {k : AgentKind} {a : AgentId}

theorem pairwise_agentIds (p : Population) :
    p.agentIds.Pairwise fun a b => a.index < b.index :=
  Lineup.pairwise_ids (l := p.lineup)

theorem mem_agentsOfKind : a ∈ p.agentsOfKind k ↔ p.kind? a = some k := by
  simp only [agentsOfKind, List.mem_filter, mem_agentIds, beq_iff_eq]
  exact ⟨And.right, fun h => ⟨lt_count_of_kind? h, h⟩⟩

/-- The agents of a kind are listed alike wherever the same agents are of that kind. -/
theorem agentsOfKind_congr (h : ∀ a, q.kind? a = some k ↔ p.kind? a = some k) :
    q.agentsOfKind k = p.agentsOfKind k := by
  apply eq_of_ascending
  · exact q.pairwise_agentIds.filter _
  · exact p.pairwise_agentIds.filter _
  · intro a
    rw [mem_agentsOfKind, mem_agentsOfKind, h]

end Population

theorem mem_ghostsOn {a : AgentId} {t : TileId} (h : p.Consistent) :
    a ∈ ghostsOn p t ↔ p.isGhost a = true ∧ p.tile? a = some t := by
  rw [ghostsOn, (List.mergeSort_perm _ _).mem_iff, List.mem_filter, h.mem_occupants, and_comm]

/-- Whoever meets whom stands on one tile, a ghost and a player. -/
theorem mem_encountersAt {e : Encounter} {tick : Tick} (h : p.Consistent) :
    e ∈ encountersAt tick p ↔
      e.tick = tick ∧ p.isGhost e.ghost = true ∧ p.kind? e.player = some .player ∧
        p.tile? e.ghost = some e.tile ∧ p.tile? e.player = some e.tile := by
  simp only [encountersAt, List.mem_flatMap, Population.mem_agentsOfKind]
  constructor
  · rintro ⟨player, hkind, he⟩
    split at he
    · cases he
    · next t ht =>
      obtain ⟨ghost, hghost, rfl⟩ := List.mem_map.1 he
      obtain ⟨hisGhost, htile⟩ := (mem_ghostsOn h).1 hghost
      exact ⟨rfl, hisGhost, hkind, htile, ht⟩
  · rintro ⟨rfl, hisGhost, hkind, htile, ht⟩
    refine ⟨e.player, hkind, ?_⟩
    rw [ht]
    exact List.mem_map.2 ⟨e.ghost, (mem_ghostsOn h).2 ⟨hisGhost, htile⟩, rfl⟩

theorem pairwise_ghostsOn (h : p.Consistent) (t : TileId) :
    (ghostsOn p t).Pairwise fun a b => a.index < b.index := by
  have htrans (a b c : AgentId) (hab : decide (a.index ≤ b.index) = true)
      (hbc : decide (b.index ≤ c.index) = true) : decide (a.index ≤ c.index) = true :=
    decide_eq_true (Nat.le_trans (of_decide_eq_true hab) (of_decide_eq_true hbc))
  have htotal (a b : AgentId) :
      (decide (a.index ≤ b.index) || decide (b.index ≤ a.index)) = true := by
    simpa using Nat.le_total a.index b.index
  -- Sorting makes it ascend, and nobody is there twice.
  have hsorted := List.pairwise_mergeSort htrans htotal ((p.occupants t).filter p.isGhost)
  have hnodup : (ghostsOn p t).Nodup :=
    (List.mergeSort_perm _ _).nodup_iff.2 ((h.nodup t).filter _)
  refine (hsorted.and hnodup).imp ?_
  rintro ⟨i⟩ ⟨j⟩ ⟨hle, hne⟩
  exact Nat.lt_of_le_of_ne (of_decide_eq_true hle) fun heq => hne (congrArg AgentId.mk heq)

/-- The ghosts of a crowd, once they are sorted, are the ghosts of the lineup on that tile. -/
theorem ghostsOn_eq_filter (h : p.Consistent) (t : TileId) :
    ghostsOn p t =
      p.lineup.ids.filter fun a => p.lineup.isGhost a && p.lineup.tile? a = some t := by
  apply eq_of_ascending
  · exact pairwise_ghostsOn h t
  · exact Lineup.pairwise_ids.filter _
  · intro a
    simp only [mem_ghostsOn h, List.mem_filter, Bool.and_eq_true, decide_eq_true_eq]
    exact ⟨fun ha => ⟨Lineup.mem_ids_of_tile? ha.2, ha⟩, And.right⟩

theorem encountersAt_eq_encounters (h : p.Consistent) (tick : Tick) :
    encountersAt tick p = p.lineup.encounters tick := by
  simp only [encountersAt, Lineup.encounters]
  apply congrArg fun f => List.flatMap f p.lineup.players
  funext player
  have hplayer : p.lineup.tile? player = p.tile? player := rfl
  rw [hplayer]
  cases p.tile? player with
  | none =>
    -- Ghosts that stand nowhere do not meet a player who stands nowhere.
    simp
  | some tile =>
    simp only [ghostsOn_eq_filter h, ← List.filterMap_eq_map, List.filterMap_filter]
    apply congrArg fun f => List.filterMap f p.lineup.ids
    funext ghost
    simp

end MazeChase
