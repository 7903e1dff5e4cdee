import MazeChase.Proofs.Arrivals
import MazeChase.Proofs.Lineup

/-!
# Two calls exchanged

Two calls on a population that are about different agents can be made in either order. Each of them
is answered as if the other had not been made, for an answer depends on nothing but the agent that
the call is about; and everybody stands where they would stand otherwise. The crowds are the same as
well, down to the order of arrival, with one exception. If both calls bring their agents onto one
tile, the agent that comes second is listed last, so the last two entries of that crowd, and nothing
else, tell in which order the calls were made.

A call does to a crowd one of three things: it lists its agent at the end, it takes it out, or
nothing. Which one it is does not depend on the other call. So all that has to be compared are two
such changes of one list.

## Main definitions

* `Population.Reply`, `Population.reply` — what a call answers
* `Population.Brings`, `Population.Takes` — a call that brings its agent to a tile or takes it away
* `Population.Exchangeable` — what becomes of two calls in either order

## Main results

* `Population.reply_changed`, `Population.occupants_changed_eq` — one call after another one
* `Population.ext_views` — populations are told apart by their views
* `Population.exchange_calls` — calls about different agents can be exchanged
-/

namespace MazeChase.Population

variable {p q : Population} {c d : Change} {a : AgentId} {t : TileId} {l : List AgentId}

/-! ### Answers -/

/-- What a call answers that is not refused. -/
inductive Reply where
  /-- The agent stands on the tile to which it was to move. -/
  | entered
  /-- The agent has left the board, and stood on this tile before. -/
  | left (tile : Option TileId)
deriving DecidableEq, Repr

/-- What a call answers, or why it is refused. -/
def reply (p : Population) : Change → Except PlacementError Reply
  | .occupy a t => (p.occupy a t).map fun _ => .entered
  | .vacate a => (p.vacate a).map fun answer => .left answer.1

/-- An answer depends on the size of the population and on where the agent stands that the call is
about. -/
theorem reply_congr (hcount : q.count = p.count) (htiles : q.tileCount = p.tileCount)
    (htile : q.tile? c.agent = p.tile? c.agent) : q.reply c = p.reply c := by
  cases c with
  | occupy a t =>
    have htile : q.tile? a = p.tile? a := htile
    simp only [reply, occupy, hcount, htiles, htile]
    split
    · rfl
    · split
      · rfl
      · split <;> rfl
  | vacate a =>
    have htile : q.tile? a = p.tile? a := htile
    simp only [reply, vacate, hcount, htile]
    split <;> rfl

/-- A call leaves all other agents where they are. -/
theorem tile?_changed_of_ne (h : c.agent ≠ a) : (p.changed c).tile? a = p.tile? a := by
  rw [tile?_changed, if_neg fun hc => h hc.2]

/-- A call is answered in the same way after a call about another agent. -/
theorem reply_changed (h : c.agent ≠ d.agent) : (p.changed c).reply d = p.reply d :=
  reply_congr (count_changed c) (tileCount_changed c) (tile?_changed_of_ne h)

/-! ### Crowds -/

/-- The call brings its agent onto tile `t`, where it was not before. -/
def Brings (p : Population) (c : Change) (t : TileId) : Prop :=
  p.accepts c = true ∧ p.tile? c.agent ≠ some t ∧ c.place = some t

/-- The call takes its agent away from tile `t`. -/
def Takes (p : Population) (c : Change) (t : TileId) : Prop :=
  p.accepts c = true ∧ p.tile? c.agent = some t ∧ c.place ≠ some t

instance (p : Population) (c : Change) (t : TileId) : Decidable (p.Brings c t) :=
  inferInstanceAs (Decidable (_ ∧ _))

instance (p : Population) (c : Change) (t : TileId) : Decidable (p.Takes c t) :=
  inferInstanceAs (Decidable (_ ∧ _))

/-- What the call makes of the crowd on tile `t`. -/
def crowdAfter (p : Population) (c : Change) (t : TileId) (crowd : List AgentId) : List AgentId :=
  if p.Brings c t then crowd ++ [c.agent]
  else if p.Takes c t then crowd.filter (· ≠ c.agent)
  else crowd

theorem occupants_changed_eq (p : Population) (c : Change) (t : TileId) :
    (p.changed c).occupants t = p.crowdAfter c t (p.occupants t) := by
  cases hsound : p.accepts c with
  | false =>
    rw [changed_of_not_isSound (accepts_eq p c ▸ hsound)]
    simp [crowdAfter, Brings, Takes, hsound]
  | true =>
    have hsound' : c.isSound p.count p.tileCount = true := accepts_eq p c ▸ hsound
    by_cases hstays : p.tile? c.agent = c.place
    · rw [changed_of_eq hsound' hstays]
      simp [crowdAfter, Brings, Takes, hstays]
    · rw [occupants_changed_of_ne hsound' hstays]
      by_cases hplace : c.place = some t
      · rw [hplace] at hstays
        simp [crowdAfter, Brings, hsound, hplace, hstays]
      · simp [crowdAfter, Brings, Takes, hsound, hplace]

theorem accepts_changed : (p.changed c).accepts d = p.accepts d := by
  rw [accepts_eq, accepts_eq, count_changed, tileCount_changed]

theorem brings_changed_iff (h : c.agent ≠ d.agent) :
    (p.changed c).Brings d t ↔ p.Brings d t := by
  rw [Brings, Brings, accepts_changed, tile?_changed_of_ne h]

theorem takes_changed_iff (h : c.agent ≠ d.agent) : (p.changed c).Takes d t ↔ p.Takes d t := by
  rw [Takes, Takes, accepts_changed, tile?_changed_of_ne h]

/-- A call makes the same of a crowd after a call about another agent. -/
theorem crowdAfter_changed (h : c.agent ≠ d.agent) :
    (p.changed c).crowdAfter d t l = p.crowdAfter d t l := by
  simp only [crowdAfter, brings_changed_iff h, takes_changed_iff h]

/-- What two calls about different agents make of a crowd they make of it in either order, unless
both list their agents at the end. -/
theorem crowdAfter_comm (h : c.agent ≠ d.agent) (hmeet : ¬ (p.Brings c t ∧ p.Brings d t)) :
    p.crowdAfter d t (p.crowdAfter c t l) = p.crowdAfter c t (p.crowdAfter d t l) := by
  by_cases hc : p.Brings c t
  · have hd : ¬ p.Brings d t := fun hd => hmeet ⟨hc, hd⟩
    -- The agent that is listed at the end is not the one that is taken out.
    by_cases hd' : p.Takes d t <;> simp [crowdAfter, hc, hd, hd', h]
  · by_cases hc' : p.Takes c t
    · by_cases hd : p.Brings d t
      · simp [crowdAfter, hc, hc', hd, h.symm]
      · by_cases hd' : p.Takes d t
        · simp only [crowdAfter, hc, hc', hd, hd', if_true, if_false]
          exact List.filter_comm _ _ _
        · simp [crowdAfter, hc, hc', hd, hd']
    · simp [crowdAfter, hc, hc']

theorem occupants_changed_changed (h : c.agent ≠ d.agent) :
    ((p.changed c).changed d).occupants t =
      p.crowdAfter d t (p.crowdAfter c t (p.occupants t)) := by
  rw [occupants_changed_eq, occupants_changed_eq, crowdAfter_changed h]

/-! ### Whole populations -/

theorem kind?_changed (c : Change) : (p.changed c).kind? a = p.kind? a := by
  refine changed_induction (P := fun q => q.kind? a = p.kind? a) c rfl kind?_occupy ?_
  intro b left q hleft
  obtain ⟨-, -, rfl⟩ := vacate_eq_ok_iff.1 hleft
  exact kind?_depart

/-- Two populations for as many tiles are the same if they have the same agents on the same tiles
and the same crowds in the same order. -/
theorem ext_views (hkind : ∀ a, q.kind? a = p.kind? a) (htile : ∀ a, q.tile? a = p.tile? a)
    (htiles : q.tileCount = p.tileCount) (hoccupants : ∀ t, q.occupants t = p.occupants t) :
    q = p := by
  have hagents : q.agents = p.agents := Lineup.ext_views hkind htile
  have hcrowds : q.crowds = p.crowds := by
    apply Array.ext htiles
    intro i hi hi'
    have hcrowd := hoccupants ⟨i⟩
    rwa [occupants, occupants, Array.getElem?_eq_getElem hi,
      Array.getElem?_eq_getElem hi'] at hcrowd
  cases q
  cases p
  simp_all

/-- What becomes of two calls when they are made in either order. -/
structure Exchangeable (p : Population) (c d : Change) : Prop where
  /-- Each call answers what it would answer alone, be it made first or second. -/
  reply_first : (p.changed d).reply c = p.reply c
  reply_second : (p.changed c).reply d = p.reply d
  /-- Everybody stands on the same tile in the end. -/
  tile?_eq : ∀ a, ((p.changed c).changed d).tile? a = ((p.changed d).changed c).tile? a
  /-- Every crowd is the same, with its order, unless both calls bring their agents there. -/
  occupants_eq : ∀ t, ¬ (p.Brings c t ∧ p.Brings d t) →
    ((p.changed c).changed d).occupants t = ((p.changed d).changed c).occupants t
  /-- If they do, its last two entries are swapped. -/
  occupants_swapped : ∀ t, p.Brings c t → p.Brings d t →
    ((p.changed c).changed d).occupants t = p.occupants t ++ [c.agent, d.agent] ∧
      ((p.changed d).changed c).occupants t = p.occupants t ++ [d.agent, c.agent]
  /-- So the populations are the same exactly if the agents do not arrive on one tile. -/
  eq_iff : (p.changed c).changed d = (p.changed d).changed c ↔
    ∀ t, ¬ (p.Brings c t ∧ p.Brings d t)

/-- **Calls about different agents can be exchanged.** In either order two such calls give the same
answers and leave everybody on the same tile, and the crowds are the same with their order, but for
one: where both calls bring their agents the last two entries are swapped. -/
theorem exchange_calls (p : Population) (h : c.agent ≠ d.agent) : p.Exchangeable c d := by
  have htile (a : AgentId) :
      ((p.changed c).changed d).tile? a = ((p.changed d).changed c).tile? a := by
    simp only [tile?_changed, count_changed, tileCount_changed]
    by_cases hc : c.agent = a
    · have hd : d.agent ≠ a := hc ▸ h.symm
      simp [hc, hd]
    · simp [hc]
  have hcrowd (t : TileId) (hmeet : ¬ (p.Brings c t ∧ p.Brings d t)) :
      ((p.changed c).changed d).occupants t = ((p.changed d).changed c).occupants t := by
    rw [occupants_changed_changed h, occupants_changed_changed h.symm, crowdAfter_comm h hmeet]
  have hswapped (t : TileId) (hc : p.Brings c t) (hd : p.Brings d t) :
      ((p.changed c).changed d).occupants t = p.occupants t ++ [c.agent, d.agent] ∧
        ((p.changed d).changed c).occupants t = p.occupants t ++ [d.agent, c.agent] := by
    rw [occupants_changed_changed h, occupants_changed_changed h.symm]
    simp [crowdAfter, hc, hd]
  refine ⟨reply_changed h.symm, reply_changed h, htile, hcrowd, hswapped, ?_, ?_⟩
  · intro heq t hmeet
    -- The two agents would have to be listed in both orders.
    obtain ⟨hforth, hback⟩ := hswapped t hmeet.1 hmeet.2
    rw [heq, hback, List.append_cancel_left_eq, List.cons.injEq] at hforth
    exact h hforth.1.symm
  · intro hapart
    apply ext_views
    · intro a
      simp only [kind?_changed]
    · exact htile
    · simp only [tileCount_changed]
    · exact fun t => hcrowd t (hapart t)

/-- Two ghosts on a tile, and a third one on the next. -/
def doorway : Population :=
  (ofKinds [.blinky, .pinky, .inky] 2).after [.occupy ⟨0⟩ ⟨0⟩, .occupy ⟨1⟩ ⟨0⟩, .occupy ⟨2⟩ ⟨1⟩]

/-- If both ghosts enter the next tile, its crowd tells who came first. If one of them enters it
while the third one leaves the board, nothing tells. -/
theorem exchange_calls_doorway :
    doorway.Exchangeable (.occupy ⟨0⟩ ⟨1⟩) (.occupy ⟨1⟩ ⟨1⟩) ∧
      ((doorway.changed (.occupy ⟨0⟩ ⟨1⟩)).changed (.occupy ⟨1⟩ ⟨1⟩)).occupants ⟨1⟩ =
        [⟨2⟩, ⟨0⟩, ⟨1⟩] ∧
      ((doorway.changed (.occupy ⟨1⟩ ⟨1⟩)).changed (.occupy ⟨0⟩ ⟨1⟩)).occupants ⟨1⟩ =
        [⟨2⟩, ⟨1⟩, ⟨0⟩] ∧
      (doorway.changed (.occupy ⟨0⟩ ⟨1⟩)).changed (.vacate ⟨2⟩) =
        (doorway.changed (.vacate ⟨2⟩)).changed (.occupy ⟨0⟩ ⟨1⟩) := by
  have hrush : doorway.Exchangeable (.occupy ⟨0⟩ ⟨1⟩) (.occupy ⟨1⟩ ⟨1⟩) :=
    exchange_calls doorway (by decide)
  have hpass : doorway.Exchangeable (.occupy ⟨0⟩ ⟨1⟩) (.vacate ⟨2⟩) :=
    exchange_calls doorway (by decide)
  refine ⟨hrush, rfl, rfl, hpass.eq_iff.2 fun t hmeet => ?_⟩
  -- Whoever leaves the board is brought nowhere.
  cases hmeet.2.2.2

end MazeChase.Population
