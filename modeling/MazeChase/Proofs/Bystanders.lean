import MazeChase.Proofs.Lineup
import MazeChase.Proofs.Unhindered

/-!
# Agents that no others can influence

Two games are played side by side, and some of their agents are watched. If every player is
watched, and if every watched agent begins alike in both games, behaves alike and is barred by
nobody, then it stays alike: no matter what the others are, where they stand, how they behave and
where they are steered.

Everything by which an agent could notice the others is covered by that. It sees a target, which is
a watched player; it sees open steps, which depend on the terrain alone; and nobody is in its way.

Players are barred by nobody under any rule. So if just the players are watched, the ghosts are the
others: ghosts never influence players.

## Main definitions

* `Game.Twin` — an agent that is alike in two games
* `Game.AgreeOn` — two games agree on the watched agents
* `Command.isTurn`, `Command.isHeeded` — commands that play, and those that concern the watched

## Main results

* `Game.AgreeOn.step` — two games that agree agree after a tick
* `Game.AgreeOn.after` — and after commands that are the same for the watched
* `Game.ghosts_never_influence_players` — players fare alike whatever the ghosts are

## Main examples

* `Setup.stroll`, `Game.stroll` — a player who stays and a ghost that wanders, in a corridor
-/

namespace MazeChase

/-- Whether a command plays a number of ticks or queues a move. A full run does not count: how many
ticks it plays is up to the schedule. -/
def Command.isTurn : Command → Bool
  | step => true
  | play _ => true
  | steer _ _ => true
  | _ => false

theorem Command.isPlay_of_isTurn {c : Command} (h : c.isTurn = true) : c.isPlay = true := by
  cases c with
  | change c => cases h
  | _ => rfl

/-- Whether a command concerns the watched agents: all do but those that steer others. -/
def Command.isHeeded (watched : AgentId → Bool) : Command → Bool
  | steer a _ => watched a
  | _ => true

namespace Game

/-- Agent `a` is of kind `k` in both games, stands on the same tile, remembers the same, has the
same move queued and behaves alike, and nobody bars its way in either of them. -/
structure Twin (g h : Game) (a : AgentId) (k : AgentKind) : Prop where
  kind_left : g.population.kind? a = some k
  kind_right : h.population.kind? a = some k
  tile?_eq : h.population.tile? a = g.population.tile? a
  memory_eq : h.memories[a.index]? = g.memories[a.index]?
  queued_eq : h.steering[a.index]? = g.steering[a.index]?
  leaf_eq : h.strategy.leaf k = g.strategy.leaf k
  spares_left : g.rules.Spares k
  spares_right : h.rules.Spares k

/-- Two games on one board agree on the watched agents, and every player is watched. -/
structure AgreeOn (watched : AgentId → Bool) (g h : Game) : Prop where
  ready_left : g.Ready
  ready_right : h.Ready
  board_eq : h.board = g.board
  tick_eq : h.tick = g.tick
  watches_left : ∀ a, g.population.kind? a = some .player → watched a = true
  watches_right : ∀ a, h.population.kind? a = some .player → watched a = true
  twin : ∀ a, watched a = true → ∃ k, g.Twin h a k

variable {watched : AgentId → Bool} {g h : Game} {a b : AgentId} {k : AgentKind} {c : Command}

theorem Twin.symm (h' : g.Twin h a k) : h.Twin g a k where
  kind_left := h'.kind_right
  kind_right := h'.kind_left
  tile?_eq := h'.tile?_eq.symm
  memory_eq := h'.memory_eq.symm
  queued_eq := h'.queued_eq.symm
  leaf_eq := h'.leaf_eq.symm
  spares_left := h'.spares_right
  spares_right := h'.spares_left

namespace AgreeOn

theorem symm (hgh : AgreeOn watched g h) : AgreeOn watched h g where
  ready_left := hgh.ready_right
  ready_right := hgh.ready_left
  board_eq := hgh.board_eq.symm
  tick_eq := hgh.tick_eq.symm
  watches_left := hgh.watches_right
  watches_right := hgh.watches_left
  twin a ha := by
    obtain ⟨k, htwin⟩ := hgh.twin a ha
    exact ⟨k, htwin.symm⟩

/-! ### What the watched see -/

theorem player_iff (hgh : AgreeOn watched g h) (a : AgentId) :
    h.population.kind? a = some .player ↔ g.population.kind? a = some .player := by
  constructor
  · intro ha
    obtain ⟨k, htwin⟩ := hgh.twin a (hgh.watches_right a ha)
    rw [htwin.kind_left, ← htwin.kind_right, ha]
  · intro ha
    obtain ⟨k, htwin⟩ := hgh.twin a (hgh.watches_left a ha)
    rw [htwin.kind_right, ← htwin.kind_left, ha]

theorem target_eq (hgh : AgreeOn watched g h) : h.target = g.target := by
  have hplayers : h.population.agentsOfKind .player = g.population.agentsOfKind .player :=
    Population.agentsOfKind_congr hgh.player_iff
  have htiles : (g.population.agentsOfKind .player).map h.population.tile? =
      (g.population.agentsOfKind .player).map g.population.tile? := by
    refine List.map_congr_left fun a ha => ?_
    obtain ⟨k, htwin⟩ := hgh.twin a (hgh.watches_left a (Population.mem_agentsOfKind.1 ha))
    exact htwin.tile?_eq
  -- The target is the first of these tiles.
  simpa [target, hplayers, List.findSome?_map] using congrArg (List.findSome? id) htiles

/-- Both games are the same to a watched agent. -/
theorem alike_view (hgh : AgreeOn watched g h) (htwin : g.Twin h a k) :
    h.view.Alike a g.view where
  -- Its own kind and tile are the same, and of the others it sees none but the target.
  tileOf_eq := by
    have hright : h.view.population.kind? a = some k := htwin.kind_right
    have hleft : g.view.population.kind? a = some k := htwin.kind_left
    have htile : h.view.population.tile? a = g.view.population.tile? a := htwin.tile?_eq
    simp only [View.tileOf, hright, hleft, htile]
  step?_eq t d := by
    have hboard : h.view.board = g.view.board := hgh.board_eq
    rw [View.step?_of_spares (v := h.view) htwin.kind_right htwin.spares_right,
      View.step?_of_spares (v := g.view) htwin.kind_left htwin.spares_left, hboard]
  distance_eq := congrArg Board.distance hgh.board_eq
  target_eq := hgh.target_eq

theorem decide_eq (hgh : AgreeOn watched g h) (htwin : g.Twin h a k) (m : Memory)
    (queued : Option Direction) : h.decide a m queued = g.decide a m queued := by
  cases queued with
  | some d => rfl
  | none =>
    -- The strategies may differ as a whole, but not in what they come down to for this kind.
    change h.strategy.decide a h.view m = g.strategy.decide a g.view m
    rw [Strategy.decide_eq_leaf (v := h.view) htwin.kind_right,
      Strategy.decide_eq_leaf (v := g.view) htwin.kind_left, htwin.leaf_eq]
    have hstandard := Strategy.isStandard_leaf hgh.ready_left.standard k
    exact Behavior.decide_congr hstandard (hgh.alike_view htwin) m

/-! ### One tick -/

/-- An agent that is alike in two games that agree is alike after a tick. -/
theorem twin_step (hgh : AgreeOn watched g h) (htwin : g.Twin h a k) :
    g.step.game.Twin h.step.game a k := by
  have hcountg := Population.lt_count_of_kind? htwin.kind_left
  have hcounth := Population.lt_count_of_kind? htwin.kind_right
  obtain ⟨t, m, queued, ht, hm, hq⟩ := hgh.ready_left.exists_state hcountg
  obtain ⟨_, _, hleft⟩ := hgh.ready_left.exists_carriedOut
  obtain ⟨_, _, hright⟩ := hgh.ready_right.exists_carriedOut
  -- Both decide the same from the same tile, and the way is the same for both.
  obtain ⟨wish, hwish, htile, hmemory⟩ :=
    hgh.ready_left.step_of_spares htwin.kind_left htwin.spares_left ht hm hq
  obtain ⟨wish', hwish', htile', hmemory'⟩ :=
    hgh.ready_right.step_of_spares htwin.kind_right htwin.spares_right
      (htwin.tile?_eq.trans ht) (htwin.memory_eq.trans hm) (htwin.queued_eq.trans hq)
  rw [hgh.decide_eq htwin] at hwish' hmemory'
  -- So the wishes are one wish, and the two ends of the move are one tile of one board.
  obtain rfl : wish = wish' := Except.ok.inj (hwish.symm.trans hwish')
  exact {
    kind_left := by rw [kind?_step, htwin.kind_left]
    kind_right := by rw [kind?_step, htwin.kind_right]
    tile?_eq := by rw [htile, htile', hgh.board_eq]
    memory_eq := by rw [hmemory, hmemory']
    queued_eq := by simp [hleft.steering_eq, hright.steering_eq, hcountg, hcounth]
    leaf_eq := by rw [step_strategy, step_strategy, htwin.leaf_eq]
    spares_left := by rw [step_rules]; exact htwin.spares_left
    spares_right := by rw [step_rules]; exact htwin.spares_right }

/-- Two games that agree agree after a tick. -/
theorem step (hgh : AgreeOn watched g h) : AgreeOn watched g.step.game h.step.game where
  ready_left := hgh.ready_left.step
  ready_right := hgh.ready_right.step
  board_eq := by rw [step_board, step_board, hgh.board_eq]
  tick_eq := by
    obtain ⟨_, _, hleft⟩ := hgh.ready_left.exists_carriedOut
    obtain ⟨_, _, hright⟩ := hgh.ready_right.exists_carriedOut
    rw [hleft.tick_eq, hright.tick_eq, hgh.tick_eq]
  watches_left a ha := hgh.watches_left a (by rwa [kind?_step] at ha)
  watches_right a ha := hgh.watches_right a (by rwa [kind?_step] at ha)
  twin a ha := by
    obtain ⟨k, htwin⟩ := hgh.twin a ha
    exact ⟨k, hgh.twin_step htwin⟩

/-- Short of the end of the clock both ticks succeed. -/
theorem exists_reports (hgh : AgreeOn watched g h) {tick : Tick} (hnext : g.tick.next = .ok tick) :
    ∃ r r', g.step.result = .ok r ∧ h.step.result = .ok r' ∧
      r.encounters = encountersAt g.tick g.step.game.population ∧
      r'.encounters = encountersAt g.tick h.step.game.population := by
  obtain ⟨_, outcomes, hleft⟩ := hgh.ready_left.exists_carriedOut
  obtain ⟨_, outcomes', hright⟩ := hgh.ready_right.exists_carriedOut
  refine ⟨⟨outcomes, _⟩, ⟨outcomes', _⟩, ?_, ?_, rfl, rfl⟩
  · rw [hleft.result_eq, hnext]
    rfl
  · rw [hright.result_eq, hgh.tick_eq, hnext]
    rfl

/-! ### Many ticks -/

theorem play (hgh : AgreeOn watched g h) (n : Nat) :
    AgreeOn watched (g.play n).game (h.play n).game := by
  induction n generalizing g h with
  | zero => exact hgh
  | succ n ih =>
    simp only [Game.play]
    cases hnext : g.tick.next with
    | error f =>
      -- The clock is at its end for both, and both stop after this tick.
      obtain ⟨_, _, hleft⟩ := hgh.ready_left.exists_carriedOut
      obtain ⟨_, _, hright⟩ := hgh.ready_right.exists_carriedOut
      rw [hleft.result_eq, hright.result_eq, hgh.tick_eq, hnext]
      exact hgh.step
    | ok tick =>
      obtain ⟨r, r', hr, hr', -⟩ := hgh.exists_reports hnext
      rw [hr, hr']
      exact ih hgh.step

theorem obey (hgh : AgreeOn watched g h) (hc : c.isTurn = true) :
    AgreeOn watched (g.obey c) (h.obey c) := by
  cases c with
  | step => exact hgh.step
  | play n => exact hgh.play n
  | steer b d =>
    have hleft := hgh.ready_left.obey (c := .steer b d) rfl
    have hright := hgh.ready_right.obey (c := .steer b d) rfl
    rw [obey_steer] at hleft hright ⊢
    rw [obey_steer]
    refine { hgh with ready_left := hleft, ready_right := hright, twin := fun a ha => ?_ }
    obtain ⟨k, htwin⟩ := hgh.twin a ha
    refine ⟨k, { htwin with queued_eq := ?_ }⟩
    -- Whether or not the move is for `a`, it is written over the same entry in both queues.
    simp only [List.getElem?_set', htwin.queued_eq]
  | playOut => cases hc
  | change c => cases hc

/-- A command that concerns none of the watched may be given to one of the games alone. -/
theorem obey_right (hgh : AgreeOn watched g h) (hc : c.isHeeded watched = false) :
    AgreeOn watched g (h.obey c) := by
  cases c with
  | steer b d =>
    have hright := hgh.ready_right.obey (c := .steer b d) rfl
    rw [obey_steer] at hright ⊢
    refine { hgh with ready_right := hright, twin := fun a ha => ?_ }
    obtain ⟨k, htwin⟩ := hgh.twin a ha
    have hunwatched : watched b = false := hc
    -- The move is queued for somebody else, and only that place of the queue is written.
    have hne : b.index ≠ a.index := by
      intro heq
      obtain rfl : b = a := congrArg AgentId.mk heq
      rw [hunwatched] at ha
      cases ha
    refine ⟨k, { htwin with queued_eq := ?_ }⟩
    rw [List.getElem?_set_ne hne, htwin.queued_eq]
  | _ => cases hc

theorem after_right (hgh : AgreeOn watched g h) {cs : List Command}
    (hcs : ∀ c ∈ cs, c.isHeeded watched = false) : AgreeOn watched g (h.after cs) := by
  induction cs generalizing h with
  | nil => exact hgh
  | cons c cs ih =>
    rw [after_cons]
    exact ih (hgh.obey_right (hcs c List.mem_cons_self))
      fun c' hc' => hcs c' (List.mem_cons_of_mem c hc')

/-- Two games that agree agree after commands that are the same for the watched. -/
theorem after (hgh : AgreeOn watched g h) {cs ds : List Command}
    (hcs : ∀ c ∈ cs, c.isTurn = true)
    (hsame : ds.filter (Command.isHeeded watched) = cs.filter (Command.isHeeded watched)) :
    AgreeOn watched (g.after cs) (h.after ds) := by
  -- One command of the first game is matched at a time, after those that concern the second alone.
  induction cs generalizing g h ds with
  | nil =>
    refine hgh.after_right fun c hc => ?_
    simpa using List.filter_eq_nil_iff.1 hsame c hc
  | cons c cs ih =>
    have hrest : ∀ c' ∈ cs, c'.isTurn = true := fun c' hc' => hcs c' (List.mem_cons_of_mem c hc')
    cases hc : c.isHeeded watched with
    | false =>
      -- It steers somebody who is not watched, and the second game need not know of it.
      rw [List.filter_cons_of_neg (by simp [hc])] at hsame
      exact ih (hgh.symm.obey_right hc).symm hrest hsame
    | true =>
      rw [List.filter_cons_of_pos hc, List.filter_eq_cons_iff] at hsame
      obtain ⟨before, rest, rfl, hbefore, -, hrest'⟩ := hsame
      have hready := hgh.after_right fun c' hc' => by simpa using hbefore c' hc'
      rw [after_append, after_cons, after_cons]
      exact ih (hready.obey (hcs c List.mem_cons_self)) hrest hrest'

end AgreeOn

/-! ### Ghosts and players -/

/-- Agent `a` stands on the same tile in both games and has the same memory. -/
structure SameAt (g h : Game) (a : AgentId) : Prop where
  tile : ∃ t, g.population.tile? a = some t ∧ h.population.tile? a = some t
  memory : ∃ m, g.memories[a.index]? = some m ∧ h.memories[a.index]? = some m

theorem AgreeOn.sameAt (hgh : AgreeOn watched g h) (ha : watched a = true) : g.SameAt h a := by
  obtain ⟨k, htwin⟩ := hgh.twin a ha
  have hcount := Population.lt_count_of_kind? htwin.kind_left
  obtain ⟨t, m, -, ht, hm, -⟩ := hgh.ready_left.exists_state hcount
  exact ⟨⟨t, ht, htwin.tile?_eq.trans ht⟩, ⟨m, hm, htwin.memory_eq.trans hm⟩⟩

/-- Two games that were set up on one board agree if the watched begin alike. -/
theorem agreeOn_of_build {s s' : Setup} (hs : s.population.Consistent)
    (hs' : s'.population.Consistent) (hg : s.build = .ok g) (hh : s'.build = .ok h)
    (hboard : s'.board = s.board) (hstandard : s.strategy.isStandard = true)
    (hstandard' : s'.strategy.isStandard = true)
    (hleft : ∀ a, g.population.kind? a = some .player → watched a = true)
    (hright : ∀ a, h.population.kind? a = some .player → watched a = true)
    (htwin : ∀ a, watched a = true → ∃ k, g.Twin h a k) : AgreeOn watched g h := by
  have hreadyg : g.Ready := ready_of_build hs hg hstandard
  have hreadyh : h.Ready := ready_of_build hs' hh hstandard'
  obtain ⟨-, population, -, -, rfl⟩ := Setup.build_eq_ok_iff.1 hg
  obtain ⟨-, population', -, -, rfl⟩ := Setup.build_eq_ok_iff.1 hh
  exact ⟨hreadyg, hreadyh, hboard, rfl, hleft, hright, htwin⟩

/-- At the start of a game nothing is queued, for anybody. -/
theorem queued_of_build {s : Setup} (hg : s.build = .ok g) (hk : g.population.kind? a = some k) :
    g.steering[a.index]? = some none := by
  obtain ⟨-, population, -, -, rfl⟩ := Setup.build_eq_ok_iff.1 hg
  simp [Population.lt_count_of_kind? hk]

/-- **Ghosts never influence players.** Two games are set up on one board, in which the same agents
are players, begin on the same tiles with the same memories and behave alike. Whatever the ghosts
are in each of them, where they begin and what they remember, how they behave and where they are
steered, and whichever rules of access hold: after the same ticks, with the players steered alike,
every player is on the same tile and has the same memory in both games. And both games go on. -/
theorem ghosts_never_influence_players {s s' : Setup} (hs : s.population.Reachable)
    (hs' : s'.population.Reachable) (hg : s.build = .ok g) (hh : s'.build = .ok h)
    (hboard : s'.board = s.board) (hstandard : s.strategy.isStandard = true)
    (hstandard' : s'.strategy.isStandard = true)
    (hleaf : s'.strategy.leaf .player = s.strategy.leaf .player)
    (hplayers : ∀ a, h.population.kind? a = some .player ↔ g.population.kind? a = some .player)
    (hstart : ∀ a, g.population.kind? a = some .player → g.SameAt h a)
    {cs ds : List Command} (hcs : ∀ c ∈ cs, c.isTurn = true)
    (hsame : ds.filter (Command.isHeeded fun a => g.population.kind? a == some .player) =
      cs.filter (Command.isHeeded fun a => g.population.kind? a == some .player)) :
    (∀ a, g.population.kind? a = some .player → (g.after cs).SameAt (h.after ds) a) ∧
      (h.after ds).tick = (g.after cs).tick ∧
      ((g.after cs).tick.count.toNat + 1 < UInt64.size →
        ∃ r r', (g.after cs).step.result = .ok r ∧ (h.after ds).step.result = .ok r') := by
  have hbegin : AgreeOn (fun a => g.population.kind? a == some .player) g h := by
    obtain ⟨-, population, -, -, rfl⟩ := Setup.build_eq_ok_iff.1 hg
    obtain ⟨-, population', -, -, rfl⟩ := Setup.build_eq_ok_iff.1 hh
    refine agreeOn_of_build hs.consistent hs'.consistent hg hh hboard hstandard hstandard'
      (fun a ha => beq_iff_eq.2 ha) (fun a ha => beq_iff_eq.2 ((hplayers a).1 ha)) fun a ha => ?_
    have hplayer := beq_iff_eq.1 ha
    have hplayer' := (hplayers a).2 hplayer
    obtain ⟨⟨t, ht, ht'⟩, ⟨m, hm, hm'⟩⟩ := hstart a hplayer
    refine ⟨.player, ?_⟩
    exact {
      kind_left := hplayer
      kind_right := hplayer'
      tile?_eq := ht'.trans ht.symm
      memory_eq := hm'.trans hm.symm
      queued_eq := (queued_of_build hh hplayer').trans (queued_of_build hg hplayer).symm
      leaf_eq := hleaf
      spares_left := Rules.spares_player s.rules
      spares_right := Rules.spares_player s'.rules }
  have hagree := hbegin.after hcs hsame
  refine ⟨fun a ha => hagree.sameAt (beq_iff_eq.2 ha), hagree.tick_eq, fun htick => ?_⟩
  obtain ⟨r, r', hr, hr', -⟩ := hagree.exists_reports (Tick.next_of_lt htick)
  exact ⟨r, r', hr, hr'⟩

end Game

/-- A player in the middle of the corridor, who stays for want of a behaviour, and one ghost that
strolls about. -/
def Setup.stroll : Setup where
  config := { totalTicks := 3 }
  board := .corridor
  population := .ofKinds [.player, .clyde] 3
  memories := Memory.ofCount 2 0
  strategy := .assign .unassigned .clyde (.uniform .wander)
  positions := some [⟨1⟩, ⟨0⟩]

/-- The stroll at its beginning. -/
def Game.stroll : Game where
  config := { totalTicks := 3 }
  board := .corridor
  population := {
    agents := [⟨.player, some ⟨1⟩⟩, ⟨.clyde, some ⟨0⟩⟩]
    crowds := #[[⟨1⟩], [⟨0⟩], []] }
  memories := Memory.ofCount 2 0
  strategy := .assign .unassigned .clyde (.uniform .wander)
  steering := [none, none]

theorem Setup.build_stroll : Setup.stroll.build = .ok Game.stroll := rfl

/-- The player of the ambush and the one of the stroll are steered west, and fare alike. -/
theorem Game.ghosts_never_influence_players_ambush :
    Setup.ambush.build = .ok ambush ∧ Setup.stroll.build = .ok stroll ∧
      (ambush.after [.steer ⟨0⟩ .west, .steer ⟨2⟩ .south, .step, .play 2]).SameAt
        (stroll.after [.steer ⟨1⟩ .east, .steer ⟨0⟩ .west, .step, .steer ⟨1⟩ .north, .play 2])
        ⟨0⟩ := by
  have hplayers (a : AgentId) : stroll.population.kind? a = some .player ↔
      ambush.population.kind? a = some .player := by
    rcases a with ⟨_ | _ | _ | i⟩ <;> simp [Population.kind?, stroll, ambush]
  have hstart (a : AgentId) (ha : ambush.population.kind? a = some .player) :
      ambush.SameAt stroll a := by
    rcases a with ⟨_ | _ | _ | i⟩
    · exact ⟨⟨⟨1⟩, rfl, rfl⟩, ⟨_, rfl, rfl⟩⟩
    all_goals simp [Population.kind?, ambush] at ha
  have hturns : ∀ c ∈ [Command.steer ⟨0⟩ .west, .steer ⟨2⟩ .south, .step, .play 2],
      c.isTurn = true := by decide
  let isPlayer (a : AgentId) : Bool := ambush.population.kind? a == some .player
  have hsame : [Command.steer ⟨1⟩ .east, .steer ⟨0⟩ .west, .step, .steer ⟨1⟩ .north,
      .play 2].filter (Command.isHeeded isPlayer) =
        [Command.steer ⟨0⟩ .west, .steer ⟨2⟩ .south, .step, .play 2].filter
          (Command.isHeeded isPlayer) := rfl
  have hfare := ghosts_never_influence_players (.ofKinds _ _) (.ofKinds _ _) Setup.build_ambush
    Setup.build_stroll rfl rfl rfl rfl hplayers hstart hturns hsame
  exact ⟨Setup.build_ambush, Setup.build_stroll, hfare.1 ⟨0⟩ rfl⟩

end MazeChase
