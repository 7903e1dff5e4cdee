import Mathlib.Data.List.Induction
import MazeChase.Proofs.History

/-!
# A population as its history tells it

Where everybody stands, and in which order they came there, is written in the calls that were made
on a population since it was empty. A call is sound if it names an agent of the population and, for
an agent that moves, a tile in range; a call that is not sound is refused and changes nothing. The
last sound call about an agent says where it stands. The agents on a tile are listed by the calls
that began the stays which still last: who enters comes last, who leaves is taken out, and who is
told to move to where it stands stays in its place.

## Main definitions

* `Population.Change.isSound` — calls that are not refused
* `Population.after` — the population after some calls
* `Population.lastPlace` — where the history says an agent stands
* `Population.BeganStay` — the call with which a stay began that still lasts
* `Population.Precedes` — the order of arrival on a tile
* `Population.Chronicle` — all that the history tells of a population

## Main results

* `Population.exists_beganStay`, `Population.BeganStay.unique` — every stay began with one call
* `Population.pairwise_occupants_after` — the agents on a tile are listed in order of arrival
* `Population.chronicle_after` — a population is as its history tells it
-/

namespace MazeChase.Population

/-! ### What a history says -/

namespace Change

/-- The agent that a call is about. -/
def agent : Change → AgentId
  | occupy a _ => a
  | vacate a => a

/-- Where a call puts its agent. -/
def place : Change → Option TileId
  | occupy _ t => some t
  | vacate _ => none

/-- Whether a call is about one of `agents` agents, and puts it on none but `tiles` tiles. -/
def isSound (agents tiles : Nat) : Change → Bool
  | occupy a t => a.index < agents && t.index < tiles
  | vacate a => a.index < agents

theorem eq_occupy {c : Change} {t : TileId} (h : c.place = some t) : c = occupy c.agent t := by
  cases c with
  | occupy a u =>
    obtain rfl : u = t := Option.some.inj h
    rfl
  | vacate a => cases h

end Change

/-- The population after some calls in order. -/
def after (p : Population) (calls : List Change) : Population := calls.foldl changed p

section History

variable (agents tiles : Nat)

/-- Where the last sound call about agent `a` put it; nowhere if there was none. -/
def lastPlace (calls : List Change) (a : AgentId) : Option TileId :=
  (calls.filter fun c => c.isSound agents tiles && c.agent == a).getLast?.bind Change.place

/-- Call number `i` put agent `a` on tile `t`, where it was not before and has been ever since. -/
structure BeganStay (calls : List Change) (a : AgentId) (t : TileId) (i : Nat) : Prop where
  call : calls[i]? = some (.occupy a t)
  away : lastPlace agents tiles (calls.take i) a ≠ some t
  since : ∀ j, i < j → j ≤ calls.length → lastPlace agents tiles (calls.take j) a = some t

variable {agents tiles} {calls : List Change} {c : Change} {a b : AgentId} {t : TileId} {i j : Nat}

theorem lastPlace_append_singleton :
    lastPlace agents tiles (calls ++ [c]) a =
      if c.isSound agents tiles = true ∧ c.agent = a then c.place
      else lastPlace agents tiles calls a := by
  simp only [lastPlace, List.filter_append]
  split
  · next h => simp [h.1, h.2]
  · next h =>
    have hdrop : [c].filter (fun c => c.isSound agents tiles && c.agent == a) = [] := by
      simpa using h
    rw [hdrop, List.append_nil]

namespace BeganStay

theorem lt_length (h : BeganStay agents tiles calls a t i) : i < calls.length :=
  (List.getElem?_eq_some_iff.1 h.call).1

/-- A stay cannot have begun twice: at the later beginning the agent was there already. -/
theorem le (h : BeganStay agents tiles calls a t i) (h' : BeganStay agents tiles calls a t j) :
    j ≤ i := by
  by_contra hlt
  exact h'.away (h.since j (Nat.lt_of_not_le hlt) (Nat.le_of_lt h'.lt_length))

theorem unique (h : BeganStay agents tiles calls a t i) (h' : BeganStay agents tiles calls a t j) :
    i = j :=
  Nat.le_antisymm (h'.le h) (h.le h')

/-- A stay that lasts over one more call began with the call that it began with. -/
theorem append_singleton (h : BeganStay agents tiles calls a t i)
    (hstill : lastPlace agents tiles (calls ++ [c]) a = some t) :
    BeganStay agents tiles (calls ++ [c]) a t i where
  call := by rw [List.getElem?_append_left h.lt_length, h.call]
  away := by
    rw [List.take_append_of_le_length (Nat.le_of_lt h.lt_length)]
    exact h.away
  since j hij hj := by
    rw [List.length_append, List.length_singleton] at hj
    rcases Nat.le_or_eq_of_le_succ hj with hj | rfl
    · rw [List.take_append_of_le_length hj]
      exact h.since j hij hj
    · rw [← hstill, List.take_of_length_le (by simp)]

/-- A call that brings an agent onto a tile begins its stay there. -/
theorem of_arrival (haway : lastPlace agents tiles calls a ≠ some t)
    (harrives : lastPlace agents tiles (calls ++ [.occupy a t]) a = some t) :
    BeganStay agents tiles (calls ++ [.occupy a t]) a t calls.length where
  call := by simp
  away := by rwa [List.take_left]
  since j hij hj := by
    obtain rfl : j = calls.length + 1 := by
      rw [List.length_append, List.length_singleton] at hj
      omega
    rwa [List.take_of_length_le (by simp)]

end BeganStay

/-- Whoever stands somewhere began to stand there with some call. -/
theorem exists_beganStay (h : lastPlace agents tiles calls a = some t) :
    ∃ i, BeganStay agents tiles calls a t i := by
  -- A history grows at its end, and the last call either keeps the agent where it was or brings it.
  induction calls using List.reverseRecOn with
  | nil => cases h
  | append_singleton calls c ih =>
    by_cases hbefore : lastPlace agents tiles calls a = some t
    · obtain ⟨i, hi⟩ := ih hbefore
      exact ⟨i, hi.append_singleton h⟩
    · have hplace := h
      rw [lastPlace_append_singleton] at hplace
      split at hplace
      · next hc =>
        have hcall := Change.eq_occupy hplace
        rw [hc.2] at hcall
        subst hcall
        exact ⟨calls.length, .of_arrival hbefore h⟩
      · exact absurd hplace hbefore

end History

/-! ### What a call does -/

variable {kinds : List AgentKind} {tiles : Nat} {calls : List Change} {p : Population} {c : Change}
  {a b : AgentId} {t u : TileId}

/-- Whether a call succeeds. -/
def accepts (p : Population) : Change → Bool
  | .occupy a t => (p.occupy a t).isOk
  | .vacate a => (p.vacate a).isOk

theorem accepts_eq (p : Population) (c : Change) : p.accepts c = c.isSound p.count p.tileCount := by
  cases c with
  | occupy a t =>
    simp only [accepts, occupy, Change.isSound]
    split
    · next ha => simp [Except.isOk, Except.toBool, Nat.not_lt.2 ha]
    · next ha =>
      split
      · next ht => simp [Except.isOk, Except.toBool, Nat.not_lt.2 ht]
      · next ht => split <;> simp [Except.isOk, Except.toBool, Nat.lt_of_not_le ha,
          Nat.lt_of_not_le ht]
  | vacate a =>
    simp only [accepts, vacate, Change.isSound]
    split
    · next ha => simp [Except.isOk, Except.toBool, Nat.not_lt.2 ha]
    · next ha => simp [Except.isOk, Except.toBool, Nat.lt_of_not_le ha]

theorem occupy_of_isSound (h : (Change.occupy a t).isSound p.count p.tileCount = true) :
    p.occupy a t = .ok (p.changed (.occupy a t)) := by
  obtain ⟨ha, ht⟩ : a.index < p.count ∧ t.index < p.tileCount := by simpa [Change.isSound] using h
  have hq := occupy_eq_ok_iff.2 ⟨ha, ht, rfl⟩
  simp only [changed, hq]

theorem vacate_of_isSound (h : (Change.vacate a).isSound p.count p.tileCount = true) :
    p.vacate a = .ok (p.tile? a, p.changed (.vacate a)) := by
  have ha : a.index < p.count := by simpa [Change.isSound] using h
  have hq := vacate_eq_ok_iff.2 ⟨ha, rfl, rfl⟩
  simp only [changed, hq]

/-- A call that is refused changes nothing. -/
theorem changed_of_not_isSound (h : c.isSound p.count p.tileCount = false) : p.changed c = p := by
  cases c with
  | occupy a t =>
    cases hq : p.occupy a t with
    | error e => simp only [changed, hq]
    | ok q =>
      obtain ⟨ha, ht, -⟩ := occupy_eq_ok_iff.1 hq
      simp [Change.isSound, ha, ht] at h
  | vacate a =>
    cases hq : p.vacate a with
    | error e => simp only [changed, hq]
    | ok left =>
      obtain ⟨ha, -⟩ := vacate_eq_ok_iff.1 hq
      simp [Change.isSound, ha] at h

/-- A sound call puts its agent where it says, and moves nobody else. -/
theorem tile?_changed :
    (p.changed c).tile? a =
      if c.isSound p.count p.tileCount = true ∧ c.agent = a then c.place else p.tile? a := by
  cases hsound : c.isSound p.count p.tileCount with
  | false => simp [changed_of_not_isSound hsound]
  | true =>
    cases c with
    | occupy b t =>
      rw [tile?_occupy (occupy_of_isSound hsound)]
      simp [Change.agent, Change.place, eq_comm]
    | vacate b =>
      rw [tile?_vacate (vacate_of_isSound hsound)]
      simp [Change.agent, Change.place, eq_comm]

/-- A sound call that moves its agent takes it out of the crowd where it was and puts it at the end
of the crowd where it goes. -/
theorem occupants_changed_of_ne (hsound : c.isSound p.count p.tileCount = true)
    (hmoves : p.tile? c.agent ≠ c.place) :
    (p.changed c).occupants t =
      if c.place = some t then p.occupants t ++ [c.agent]
      else if p.tile? c.agent = some t then (p.occupants t).filter (· ≠ c.agent)
      else p.occupants t := by
  cases c with
  | occupy b u =>
    have hmoves : p.tile? b ≠ some u := hmoves
    rw [occupants_occupy (occupy_of_isSound hsound), if_neg hmoves]
    simp only [Change.place, Change.agent, Option.some.injEq, eq_comm (a := t)]
    split
    · next hut => rw [hut]
    · rfl
  | vacate b =>
    rw [occupants_vacate (vacate_of_isSound hsound)]
    rfl

/-- A sound call that leaves its agent where it is changes nothing either. -/
theorem changed_of_eq (hsound : c.isSound p.count p.tileCount = true)
    (hstays : p.tile? c.agent = c.place) : p.changed c = p := by
  cases c with
  | occupy b t =>
    have hat : p.tile? b = some t := hstays
    obtain ⟨-, -, hq⟩ := occupy_eq_ok_iff.1 (occupy_of_isSound hsound)
    rw [hq, if_pos hat]
  | vacate b =>
    have hout : p.tile? b = none := hstays
    obtain ⟨-, -, hq⟩ := vacate_eq_ok_iff.1 (vacate_of_isSound hsound)
    rw [hq, depart, hout]

/-- A call takes agents out of a crowd, or it puts one at the end that was not there. -/
theorem occupants_changed (p : Population) (c : Change) (t : TileId) :
    ((p.changed c).occupants t).Sublist (p.occupants t) ∨
      c = .occupy c.agent t ∧ p.tile? c.agent ≠ some t ∧
        (p.changed c).occupants t = p.occupants t ++ [c.agent] := by
  cases hsound : c.isSound p.count p.tileCount with
  | false =>
    rw [changed_of_not_isSound hsound]
    exact .inl (.refl _)
  | true =>
    by_cases hstays : p.tile? c.agent = c.place
    · rw [changed_of_eq hsound hstays]
      exact .inl (.refl _)
    · rw [occupants_changed_of_ne hsound hstays]
      split
      · next harrives => exact .inr ⟨Change.eq_occupy harrives, harrives ▸ hstays, rfl⟩
      · split
        · exact .inl List.filter_sublist
        · exact .inl (.refl _)

/-! ### What a history leaves behind -/

@[simp] theorem after_nil : p.after [] = p := rfl

theorem after_append_singleton : p.after (calls ++ [c]) = (p.after calls).changed c := by
  simp [after]

/-- What every call keeps all calls together keep. -/
theorem after_induction {P : Population → Prop} (start : P p)
    (step : ∀ {q : Population} (c : Change), P q → P (q.changed c)) (calls : List Change) :
    P (p.after calls) := by
  induction calls generalizing p with
  | nil => exact start
  | cons c calls ih => exact ih (step c start)

@[simp] theorem count_after : (p.after calls).count = p.count :=
  after_induction (P := fun q => q.count = p.count) rfl (fun c h => (count_changed c).trans h) calls

@[simp] theorem tileCount_after : (p.after calls).tileCount = p.tileCount :=
  after_induction (P := fun q => q.tileCount = p.tileCount) rfl
    (fun c h => (tileCount_changed c).trans h) calls

theorem reachable_after (h : p.Reachable) (calls : List Change) : (p.after calls).Reachable :=
  after_induction h (fun c h => h.changed c) calls

@[simp] theorem count_ofKinds : (ofKinds kinds tiles).count = kinds.length := by
  simp [ofKinds, count]

@[simp] theorem tileCount_ofKinds : (ofKinds kinds tiles).tileCount = tiles := by
  simp [ofKinds, tileCount]

@[simp] theorem kind?_ofKinds : (ofKinds kinds tiles).kind? a = kinds[a.index]? := by
  simp only [kind?, ofKinds, List.getElem?_map, Option.map_map]
  exact Option.map_id'

/-- An agent stands where the last sound call about it put it. -/
theorem tile?_after :
    ((ofKinds kinds tiles).after calls).tile? a = lastPlace kinds.length tiles calls a := by
  induction calls using List.reverseRecOn with
  | nil => exact tile?_ofKinds
  | append_singleton calls c ih =>
    rw [after_append_singleton, tile?_changed, lastPlace_append_singleton, ih]
    simp

theorem mem_occupants_after :
    a ∈ ((ofKinds kinds tiles).after calls).occupants t ↔
      lastPlace kinds.length tiles calls a = some t := by
  have h := reachable_after (.ofKinds kinds tiles) calls
  rw [h.consistent.mem_occupants, tile?_after]

/-- Agent `a` began the stay on tile `t` that still lasts before agent `b` did. -/
def Precedes (agents tiles : Nat) (calls : List Change) (t : TileId) (a b : AgentId) : Prop :=
  ∃ i j, BeganStay agents tiles calls a t i ∧ BeganStay agents tiles calls b t j ∧ i < j

/-- Of two agents that stay, the one that came first came first. -/
theorem Precedes.append_singleton {agents : Nat} (h : Precedes agents tiles calls t a b)
    (ha : lastPlace agents tiles (calls ++ [c]) a = some t)
    (hb : lastPlace agents tiles (calls ++ [c]) b = some t) :
    Precedes agents tiles (calls ++ [c]) t a b := by
  obtain ⟨i, j, hi, hj, hij⟩ := h
  exact ⟨i, j, hi.append_singleton ha, hj.append_singleton hb, hij⟩

/-- The agents on a tile are listed in the order in which their stays began. -/
theorem pairwise_occupants_after (kinds : List AgentKind) (tiles : Nat) (calls : List Change)
    (t : TileId) :
    (((ofKinds kinds tiles).after calls).occupants t).Pairwise
      (Precedes kinds.length tiles calls t) := by
  induction calls using List.reverseRecOn with
  | nil =>
    have hempty : (ofKinds kinds tiles).occupants t = [] := by
      rw [List.eq_nil_iff_forall_not_mem]
      intro a
      rw [(consistent_ofKinds kinds tiles).mem_occupants]
      simp
    rw [after_nil, hempty]
    exact .nil
  | append_singleton calls c ih =>
    have hstill (a : AgentId)
        (ha : a ∈ (((ofKinds kinds tiles).after calls).changed c).occupants t) :
        lastPlace kinds.length tiles (calls ++ [c]) a = some t := by
      rwa [← after_append_singleton, mem_occupants_after] at ha
    -- Those who are listed before the call and after it keep their order.
    have hkept (l : List AgentId)
        (hsub : l.Sublist (((ofKinds kinds tiles).after calls).occupants t))
        (hl : ∀ a ∈ l, lastPlace kinds.length tiles (calls ++ [c]) a = some t) :
        l.Pairwise (Precedes kinds.length tiles (calls ++ [c]) t) :=
      (ih.sublist hsub).imp_of_mem fun ha hb h => h.append_singleton (hl _ ha) (hl _ hb)
    rw [after_append_singleton]
    rcases occupants_changed ((ofKinds kinds tiles).after calls) c t with
      hsub | ⟨hcall, haway, happend⟩
    · exact hkept _ hsub hstill
    · rw [happend] at hstill ⊢
      rw [tile?_after] at haway
      refine List.pairwise_append.2 ⟨?_, List.pairwise_singleton _ _, ?_⟩
      · exact hkept _ (.refl _) fun a ha => hstill a (List.mem_append_left _ ha)
      · -- The one that arrives comes after everybody who is there.
        intro a ha b hb
        obtain rfl := List.mem_singleton.1 hb
        obtain ⟨i, hi⟩ := exists_beganStay (mem_occupants_after.1 ha)
        have hlast := hstill c.agent (List.mem_append_right _ hb)
        refine ⟨i, calls.length, hi.append_singleton ?_, ?_, hi.lt_length⟩
        · exact hstill a (List.mem_append_left _ ha)
        · rw [hcall] at hlast ⊢
          exact .of_arrival haway hlast

/-! ### The whole story -/

/-- All that the history of calls tells of a population that was made for agents of some kinds and
`tiles` tiles. -/
structure Chronicle (kinds : List AgentKind) (tiles : Nat) (calls : List Change)
    (p : Population) : Prop where
  /-- A move is refused if the agent is unknown, or else if the tile is out of range. -/
  occupy_refused : ∀ a t e, p.occupy a t = .error e ↔
    kinds.length ≤ a.index ∧ e = .agentNotFound a ∨
      a.index < kinds.length ∧ tiles ≤ t.index ∧ e = .tileOutOfRange t tiles
  /-- It is refused that an agent leaves if the agent is unknown. -/
  vacate_refused : ∀ a e, p.vacate a = .error e ↔ kinds.length ≤ a.index ∧ e = .agentNotFound a
  /-- So the calls that succeed are the sound ones, -/
  accepts_eq : ∀ c, p.accepts c = c.isSound kinds.length tiles
  /-- and what is refused changes nothing. -/
  refused : ∀ c, p.accepts c = false → p.changed c = p
  /-- An agent stands where the last sound call about it put it. -/
  tile?_eq : ∀ a, p.tile? a = lastPlace kinds.length tiles calls a
  /-- The crowd of a tile is whoever stands there. -/
  mem_occupants_iff : ∀ a t,
    a ∈ p.occupants t ↔ lastPlace kinds.length tiles calls a = some t
  /-- Nobody is listed twice. -/
  nodup : ∀ t, (p.occupants t).Nodup
  /-- Everybody who is listed began to stay there with one of the calls. -/
  began : ∀ a t, a ∈ p.occupants t → ∃! i, BeganStay kinds.length tiles calls a t i
  /-- Whoever came earlier is listed earlier. -/
  in_order : ∀ t, (p.occupants t).Pairwise (Precedes kinds.length tiles calls t)

/-- **A population is as its history tells it**, whatever calls were made on it since it was
empty. -/
theorem chronicle_after (kinds : List AgentKind) (tiles : Nat) (calls : List Change) :
    Chronicle kinds tiles calls ((ofKinds kinds tiles).after calls) where
  occupy_refused a t e := by simp [occupy_eq_error_iff]
  vacate_refused a e := by simp [vacate_eq_error_iff]
  accepts_eq c := by simp [accepts_eq]
  refused c hc := changed_of_not_isSound (by rwa [← accepts_eq])
  tile?_eq a := tile?_after
  mem_occupants_iff a t := mem_occupants_after
  nodup := (reachable_after (.ofKinds kinds tiles) calls).consistent.nodup
  began a t ha := by
    obtain ⟨i, hi⟩ := exists_beganStay (mem_occupants_after.1 ha)
    exact ⟨i, hi, fun j hj => hj.unique hi⟩
  in_order := pairwise_occupants_after kinds tiles calls

/-- Agent 0 is told again to move to where it stands and stays first; agent 1 leaves and comes back
last. -/
example : ((ofKinds [.player, .blinky, .pinky] 2).after [.occupy ⟨0⟩ ⟨1⟩, .occupy ⟨1⟩ ⟨1⟩,
    .occupy ⟨2⟩ ⟨1⟩, .occupy ⟨0⟩ ⟨1⟩, .vacate ⟨1⟩, .occupy ⟨3⟩ ⟨1⟩,
    .occupy ⟨1⟩ ⟨1⟩]).occupants ⟨1⟩ = [⟨0⟩, ⟨2⟩, ⟨1⟩] := by
  decide

end MazeChase.Population
