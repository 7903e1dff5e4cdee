import MazeChase.AgentKind
import MazeChase.Ident

/-!
# Populations

A population is the agents of a game and where they stand. An agent has its kind for ever. Where
the agents stand is kept twice, so that both questions are answered at once: every agent knows its
tile, and every tile knows the agents on it in the order of their arrival. An agent that enters a
tile goes to the end of its crowd, and one that leaves is taken out of it.

A population is made for a number of tiles and lets nobody stand beyond them.

## Main definitions

* `Agent`, `Population`, `Population.ofKinds` — agents and crowds; nobody is placed at first
* `Population.tile?`, `Population.occupants` — the two views
* `Population.occupy`, `Population.vacate` — the two changes
* `Population.Consistent` — the two views agree, and nobody is twice in a crowd
* `PlacementError`, `PlacementError.message` — why a change is refused

## Main results

* `Population.tile?_occupy`, `Population.occupants_occupy` — the views after an agent moved
* `Population.tile?_vacate`, `Population.occupants_vacate` — the views after an agent left
* `Population.Consistent.occupy`, `Population.Consistent.vacate` — the views still agree
-/

namespace MazeChase

/-- Why an agent cannot be placed or found. -/
inductive PlacementError where
  /-- There is no such agent. -/
  | agentNotFound (agent : AgentId)
  /-- The tile lies beyond the `tileCount` tiles for which the population was made. -/
  | tileOutOfRange (tile : TileId) (tileCount : Nat)
  /-- The agent stands nowhere. -/
  | unplaced (agent : AgentId)
deriving DecidableEq, Repr

namespace PlacementError

/-- The text that reports the cause. -/
def message : PlacementError → String
  | agentNotFound agent => s!"agent {agent} not found"
  | tileOutOfRange tile tileCount => s!"tile {tile} is outside the board ({tileCount} tiles)"
  | unplaced agent => s!"agent {agent} has not been placed on a tile"

instance : ToString PlacementError := ⟨message⟩

end PlacementError

/-- An agent of a game. -/
structure Agent where
  /-- What the agent is. -/
  kind : AgentKind
  /-- The tile on which it stands, if it stands anywhere. -/
  tile : Option TileId := none
deriving DecidableEq, Repr

/-- The agents of a game and where they stand. -/
structure Population where
  /-- The agents; an identifier is a place in this list. -/
  agents : List Agent
  /-- The agents on each tile, in the order of arrival. -/
  crowds : Array (List AgentId)
deriving DecidableEq, Repr

namespace Population

/-- Agents of some kinds, none of them placed, for `tileCount` tiles. -/
def ofKinds (kinds : List AgentKind) (tileCount : Nat) : Population where
  agents := kinds.map fun kind => { kind }
  crowds := Array.replicate tileCount []

/-- The number of agents. -/
def count (p : Population) : Nat := p.agents.length

/-- The number of tiles for which the population was made. -/
def tileCount (p : Population) : Nat := p.crowds.size

/-- Whether there are no agents. -/
def isEmpty (p : Population) : Bool := p.agents.isEmpty

/-- The identifiers of all agents, ascending. -/
def agentIds (p : Population) : List AgentId := (List.range p.count).map AgentId.mk

/-- The kind of an agent. -/
def kind? (p : Population) (a : AgentId) : Option AgentKind := p.agents[a.index]?.map Agent.kind

/-- Whether an agent is known and a ghost. -/
def isGhost (p : Population) (a : AgentId) : Bool := (p.kind? a).any AgentKind.isGhost

/-- The agents of a kind, ascending. -/
def agentsOfKind (p : Population) (k : AgentKind) : List AgentId :=
  p.agentIds.filter fun a => p.kind? a == some k

/-! ### Where agents stand -/

/-- The tile on which an agent stands. -/
def tile? (p : Population) (a : AgentId) : Option TileId := p.agents[a.index]?.bind Agent.tile

/-- The tile on which an agent stands; it is an error if there is none. -/
def requireTile (p : Population) (a : AgentId) : Except PlacementError TileId :=
  match p.tile? a with
  | some t => .ok t
  | none => .error (.unplaced a)

/-- The agents on a tile in the order of their arrival. -/
def occupants (p : Population) (t : TileId) : List AgentId := p.crowds[t.index]?.getD []

/-- Whether an agent whose kind passes a test stands on a tile. -/
def tileHas (p : Population) (t : TileId) (test : AgentKind → Bool) : Bool :=
  (p.occupants t).any fun a => (p.kind? a).any test

/-- The tile of every agent, by identifier. -/
def tiles (p : Population) : List (Option TileId) := p.agentIds.map p.tile?

/-! ### How agents move -/

/-- The population with another tile noted for an agent; no crowd is changed. -/
def setTile (p : Population) (a : AgentId) (t : Option TileId) : Population :=
  { p with agents := p.agents.modify a.index fun agent => { agent with tile := t } }

/-- The population with the crowd on a tile changed; no agent is told. -/
def mapCrowd (p : Population) (t : TileId) (f : List AgentId → List AgentId) : Population :=
  { p with crowds := p.crowds.modify t.index f }

/-- The population after an agent left the tile on which it stood, if there is one. -/
def depart (p : Population) (a : AgentId) : Population :=
  match p.tile? a with
  | none => p
  | some t => (p.setTile a none).mapCrowd t (·.filter (· ≠ a))

/-- The population after an agent that stands nowhere arrived on a tile. -/
def arrive (p : Population) (a : AgentId) (t : TileId) : Population :=
  (p.setTile a (some t)).mapCrowd t (· ++ [a])

/-- An agent moves onto a tile. One that is there already stays in its place among the occupants.
An unknown agent is refused first, then a tile out of range. -/
def occupy (p : Population) (a : AgentId) (t : TileId) : Except PlacementError Population :=
  if p.count ≤ a.index then .error (.agentNotFound a)
  else if p.tileCount ≤ t.index then .error (.tileOutOfRange t p.tileCount)
  else if p.tile? a = some t then .ok p
  else .ok ((p.depart a).arrive a t)

/-- An agent leaves the board; the answer names the tile it left. -/
def vacate (p : Population) (a : AgentId) : Except PlacementError (Option TileId × Population) :=
  if p.count ≤ a.index then .error (.agentNotFound a) else .ok (p.tile? a, p.depart a)

/-- The two views agree, and nobody is twice in a crowd. -/
structure Consistent (p : Population) : Prop where
  /-- An agent is in the crowd of the tile that it names, and in no other. -/
  mem_occupants : ∀ a t, a ∈ p.occupants t ↔ p.tile? a = some t
  /-- Nobody is counted twice. -/
  nodup : ∀ t, (p.occupants t).Nodup

/-! ### What the two tables hold -/

variable {p q : Population} {a b : AgentId} {t u : TileId}

theorem lt_count_of_kind? {k : AgentKind} (h : p.kind? a = some k) : a.index < p.count := by
  simp only [kind?, Option.map_eq_some_iff] at h
  obtain ⟨agent, hagent, -⟩ := h
  exact (List.getElem?_eq_some_iff.1 hagent).1

theorem isGhost_of_kind? {k : AgentKind} (h : p.kind? a = some k) : p.isGhost a = k.isGhost := by
  rw [isGhost, h, Option.any_some]

theorem lt_count_of_tile? (h : p.tile? a = some t) : a.index < p.count := by
  simp only [tile?, Option.bind_eq_some_iff] at h
  obtain ⟨agent, hagent, -⟩ := h
  exact (List.getElem?_eq_some_iff.1 hagent).1

theorem lt_tileCount_of_mem (h : a ∈ p.occupants t) : t.index < p.tileCount := by
  refine Nat.lt_of_not_le fun hle => ?_
  rw [occupants, Array.getElem?_eq_none hle] at h
  simp at h

theorem exists_kind? (h : a.index < p.count) : ∃ k, p.kind? a = some k :=
  ⟨_, by simp [kind?, List.getElem?_eq_getElem (show a.index < p.agents.length from h)]; rfl⟩

@[simp] theorem mem_agentIds : a ∈ p.agentIds ↔ a.index < p.count := by
  rcases a with ⟨i⟩
  simp [agentIds]

@[simp] theorem count_setTile {place : Option TileId} : (p.setTile a place).count = p.count := by
  simp [setTile, count]

@[simp] theorem tileCount_setTile {place : Option TileId} :
    (p.setTile a place).tileCount = p.tileCount := rfl

@[simp] theorem kind?_setTile {place : Option TileId} :
    (p.setTile a place).kind? b = p.kind? b := by
  simp only [kind?, setTile, List.getElem?_modify]
  cases p.agents[b.index]? with
  | none => rfl
  | some agent => by_cases h : a.index = b.index <;> simp [h]

@[simp] theorem occupants_setTile {place : Option TileId} :
    (p.setTile a place).occupants t = p.occupants t := rfl

theorem tile?_setTile {place : Option TileId} (h : a.index < p.count) :
    (p.setTile a place).tile? b = if b = a then place else p.tile? b := by
  rcases a with ⟨i⟩
  rcases b with ⟨j⟩
  simp only [tile?, setTile, List.getElem?_modify, AgentId.mk.injEq]
  split
  · next hij =>
    subst hij
    simp [List.getElem?_eq_getElem (show i < p.agents.length from h)]
  · next hij => simp [Ne.symm hij]

@[simp] theorem count_mapCrowd {f : List AgentId → List AgentId} :
    (p.mapCrowd t f).count = p.count := rfl

@[simp] theorem tileCount_mapCrowd {f : List AgentId → List AgentId} :
    (p.mapCrowd t f).tileCount = p.tileCount := by
  simp [mapCrowd, tileCount]

@[simp] theorem kind?_mapCrowd {f : List AgentId → List AgentId} :
    (p.mapCrowd t f).kind? a = p.kind? a := rfl

@[simp] theorem tile?_mapCrowd {f : List AgentId → List AgentId} :
    (p.mapCrowd t f).tile? a = p.tile? a := rfl

/-- A tile without a crowd of its own reads as an empty one, which the change has to leave empty. -/
theorem occupants_mapCrowd {f : List AgentId → List AgentId}
    (h : t.index < p.tileCount ∨ f [] = []) :
    (p.mapCrowd t f).occupants u = if u = t then f (p.occupants t) else p.occupants u := by
  rcases t with ⟨i⟩
  rcases u with ⟨j⟩
  simp only [occupants, mapCrowd, Array.getElem?_modify, TileId.mk.injEq]
  split
  · next hij =>
    subst hij
    cases hc : p.crowds[i]? with
    | some crowd => simp
    | none =>
      have hf : f [] = [] := h.resolve_left fun hlt =>
        Nat.not_le_of_lt hlt (Array.getElem?_eq_none_iff.1 hc)
      simp [hf]
  · next hij => simp [Ne.symm hij]

/-! ### The views after a change -/

@[simp] theorem count_depart : (p.depart a).count = p.count := by
  simp only [depart]
  split <;> simp

@[simp] theorem tileCount_depart : (p.depart a).tileCount = p.tileCount := by
  simp only [depart]
  split <;> simp

@[simp] theorem kind?_depart : (p.depart a).kind? b = p.kind? b := by
  simp only [depart]
  split <;> simp

@[simp] theorem tile?_depart :
    (p.depart a).tile? b = if b = a then none else p.tile? b := by
  simp only [depart]
  split
  · next h =>
    split
    · next hb => rw [hb, h]
    · rfl
  · next t h => rw [tile?_mapCrowd, tile?_setTile (lt_count_of_tile? h)]

theorem occupants_depart :
    (p.depart a).occupants t =
      if p.tile? a = some t then (p.occupants t).filter (· ≠ a) else p.occupants t := by
  simp only [depart]
  split
  · next h => simp [h]
  · next u h =>
    rw [occupants_mapCrowd (.inr rfl), h]
    simp only [occupants_setTile, Option.some.injEq, eq_comm (a := t)]
    split
    · next hut => rw [hut]
    · rfl

@[simp] theorem count_arrive : (p.arrive a t).count = p.count := by simp [arrive]

@[simp] theorem tileCount_arrive : (p.arrive a t).tileCount = p.tileCount := by simp [arrive]

@[simp] theorem kind?_arrive : (p.arrive a t).kind? b = p.kind? b := by simp [arrive]

theorem tile?_arrive (h : a.index < p.count) :
    (p.arrive a t).tile? b = if b = a then some t else p.tile? b := by
  rw [arrive, tile?_mapCrowd, tile?_setTile h]

theorem occupants_arrive (h : t.index < p.tileCount) :
    (p.arrive a t).occupants u = if u = t then p.occupants t ++ [a] else p.occupants u := by
  rw [arrive, occupants_mapCrowd (.inl (by simpa using h))]
  rfl

theorem occupy_eq_ok_iff :
    p.occupy a t = .ok q ↔
      a.index < p.count ∧ t.index < p.tileCount ∧
        q = if p.tile? a = some t then p else (p.depart a).arrive a t := by
  simp only [occupy]
  split
  · next h => simp; omega
  · next h =>
    split
    · next h' => simp; omega
    · next h' => split <;> simp_all [eq_comm]

theorem occupy_eq_error_iff {e : PlacementError} :
    p.occupy a t = .error e ↔
      p.count ≤ a.index ∧ e = .agentNotFound a ∨
        a.index < p.count ∧ p.tileCount ≤ t.index ∧ e = .tileOutOfRange t p.tileCount := by
  simp only [occupy]
  split
  · next h => simp [h, Nat.not_lt.2 h, eq_comm]
  · next h =>
    split
    · next h' => simp [h, h', Nat.lt_of_not_le h, eq_comm]
    · next h' => split <;> simp [h, h']

theorem count_occupy (h : p.occupy a t = .ok q) : q.count = p.count := by
  obtain ⟨-, -, rfl⟩ := occupy_eq_ok_iff.1 h
  split <;> simp

theorem tileCount_occupy (h : p.occupy a t = .ok q) : q.tileCount = p.tileCount := by
  obtain ⟨-, -, rfl⟩ := occupy_eq_ok_iff.1 h
  split <;> simp

theorem kind?_occupy (h : p.occupy a t = .ok q) : q.kind? b = p.kind? b := by
  obtain ⟨-, -, rfl⟩ := occupy_eq_ok_iff.1 h
  split <;> simp

theorem tile?_occupy (h : p.occupy a t = .ok q) :
    q.tile? b = if b = a then some t else p.tile? b := by
  obtain ⟨ha, -, rfl⟩ := occupy_eq_ok_iff.1 h
  split
  · next hat =>
    split
    · next hb => rw [hb, hat]
    · rfl
  · rw [tile?_arrive (by simpa using ha), tile?_depart]
    split <;> rfl

theorem occupants_occupy (h : p.occupy a t = .ok q) :
    q.occupants u =
      if p.tile? a = some t then p.occupants u
      else if u = t then p.occupants t ++ [a]
      else if p.tile? a = some u then (p.occupants u).filter (· ≠ a)
      else p.occupants u := by
  obtain ⟨-, ht, rfl⟩ := occupy_eq_ok_iff.1 h
  split
  · rfl
  · next hat =>
    rw [occupants_arrive (by simpa using ht), occupants_depart, occupants_depart, if_neg hat]

theorem vacate_eq_ok_iff {left : Option TileId} :
    p.vacate a = .ok (left, q) ↔ a.index < p.count ∧ left = p.tile? a ∧ q = p.depart a := by
  simp only [vacate]
  split
  · next h => simp; omega
  · next h => simp [eq_comm]; omega

theorem vacate_eq_error_iff {e : PlacementError} :
    p.vacate a = .error e ↔ p.count ≤ a.index ∧ e = .agentNotFound a := by
  simp only [vacate]
  split
  · next h => simp [h, eq_comm]
  · next h => simp [h]

theorem count_vacate {left : Option TileId} (h : p.vacate a = .ok (left, q)) :
    q.count = p.count := by
  obtain ⟨-, -, rfl⟩ := vacate_eq_ok_iff.1 h
  exact count_depart

theorem tileCount_vacate {left : Option TileId} (h : p.vacate a = .ok (left, q)) :
    q.tileCount = p.tileCount := by
  obtain ⟨-, -, rfl⟩ := vacate_eq_ok_iff.1 h
  exact tileCount_depart

theorem tile?_vacate {left : Option TileId} (h : p.vacate a = .ok (left, q)) :
    q.tile? b = if b = a then none else p.tile? b := by
  obtain ⟨-, -, rfl⟩ := vacate_eq_ok_iff.1 h
  exact tile?_depart

theorem occupants_vacate {left : Option TileId} (h : p.vacate a = .ok (left, q)) :
    q.occupants t =
      if p.tile? a = some t then (p.occupants t).filter (· ≠ a) else p.occupants t := by
  obtain ⟨-, -, rfl⟩ := vacate_eq_ok_iff.1 h
  exact occupants_depart

/-! ### The views still agree -/

@[simp] theorem tile?_ofKinds {kinds : List AgentKind} {n : Nat} :
    (ofKinds kinds n).tile? a = none := by
  simp only [tile?, ofKinds, List.getElem?_map]
  cases kinds[a.index]? <;> rfl

theorem consistent_ofKinds (kinds : List AgentKind) (n : Nat) :
    (ofKinds kinds n).Consistent := by
  have hocc (t : TileId) : (ofKinds kinds n).occupants t = [] := by
    simp only [occupants, ofKinds, Array.getElem?_replicate]
    split <;> rfl
  exact ⟨fun a t => by simp [hocc], fun t => by simp [hocc]⟩

namespace Consistent

/-- Who stands on a tile is known, and the tile is one of those for which there is a crowd. -/
theorem lt_of_tile? (h : p.Consistent) (ht : p.tile? a = some t) :
    a.index < p.count ∧ t.index < p.tileCount :=
  ⟨lt_count_of_tile? ht, lt_tileCount_of_mem ((h.mem_occupants a t).2 ht)⟩

theorem depart (h : p.Consistent) (a : AgentId) : (p.depart a).Consistent where
  mem_occupants b t := by
    have hb := h.mem_occupants b t
    rw [occupants_depart, tile?_depart]
    by_cases hba : b = a
    · subst hba
      split <;> simp_all
    · split <;> simp [hb, hba]
  nodup t := by
    rw [occupants_depart]
    split
    · exact (h.nodup t).filter _
    · exact h.nodup t

theorem arrive (h : p.Consistent) (ha : a.index < p.count) (ht : t.index < p.tileCount)
    (hout : p.tile? a = none) : (p.arrive a t).Consistent where
  mem_occupants b u := by
    have hb := h.mem_occupants b u
    rw [occupants_arrive ht, tile?_arrive ha]
    by_cases hba : b = a
    · subst hba
      split <;> simp_all [eq_comm]
    · split <;> simp_all
  nodup u := by
    have hnot : a ∉ p.occupants t := by simp [h.mem_occupants, hout]
    rw [occupants_arrive ht]
    split
    · simpa [List.nodup_append, h.nodup t] using fun b hb => ne_of_mem_of_not_mem hb hnot
    · exact h.nodup u

theorem occupy (h : p.Consistent) (hq : p.occupy a t = .ok q) : q.Consistent := by
  obtain ⟨ha, ht, rfl⟩ := occupy_eq_ok_iff.1 hq
  split
  · exact h
  · exact (h.depart a).arrive (by simpa using ha) (by simpa using ht) (by simp)

theorem vacate {left : Option TileId} (h : p.Consistent) (hq : p.vacate a = .ok (left, q)) :
    q.Consistent := by
  obtain ⟨-, -, rfl⟩ := vacate_eq_ok_iff.1 hq
  exact h.depart a

end Consistent

end Population

end MazeChase
