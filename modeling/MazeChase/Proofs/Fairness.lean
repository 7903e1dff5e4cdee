import Mathlib.Algebra.Order.Floor.Div
import Mathlib.Algebra.Ring.Nat
import Mathlib.Data.Set.Card
import Mathlib.Order.Interval.Finset.Nat
import MazeChase.Graph

/-!
# Random moves are fair

A word counts for a number `k` below `n` if its product with `n` lies in a window that begins at
the `k`-th multiple of `2 ^ 64` and is `n` times a power of two wide. So the words that count for
`k` are consecutive, and they are as many as that power of two says, wherever the window begins. No
number is preferred, and what is left over of the words counts for nothing.

A random move among several directions goes in the one for which its first word counts, and that
word is all it draws. If the word counts for none the move is the one that the source makes after
it. A draw looks at no more than `2 ^ 256` words, and beyond that the answer means nothing; the loop
without this bound is described here as a relation, and a move is what the loop says whenever the
loop ends in time.

## Main definitions

* `Uniform.share` — how many words count for each number
* `Uniform.Draws`, `MoveGraph.Moves` — draws and random moves without a bound on the number of words
* `MoveGraph.Settles` — a word that settles a random move at once
* `MoveGraph.Fair` — all that a random move promises

## Main results

* `Uniform.ncard_index?` — each number has the same share of the words
* `MoveGraph.fair_randomMove` — random moves are fair

## Main examples

* `MoveGraph.plaza` — a tile with four ways to go
-/

namespace MazeChase

open WordSource

/-! ### The words that count -/

namespace Uniform

variable {n k : Nat} {v : UInt64}

/-- How many words count for each number below `n`. -/
def share (n : Nat) : Nat := 2 ^ (63 - n.log2)

theorem zone_add_one (hn : 0 < n) : zone n + 1 = n * share n := by
  have hpos : 0 < n * 2 ^ (63 - n.log2) := Nat.mul_pos hn (Nat.two_pow_pos _)
  rw [zone, Nat.shiftLeft_eq, Nat.sub_add_cancel hpos, share]

/-- The bound is shifted as far as it fits into a word. -/
theorem mul_share_le (hn : 0 < n) (hsize : n < UInt64.size) : n * share n ≤ UInt64.size := by
  have hlog : n.log2 < 64 := (Nat.log2_lt hn.ne').2 hsize
  calc n * share n
      ≤ 2 ^ (n.log2 + 1) * 2 ^ (63 - n.log2) := Nat.mul_le_mul_right _ Nat.lt_log2_self.le
    _ = 2 ^ 64 := by
        rw [← Nat.pow_add]
        congr 1
        omega

/-- A word counts for `k` if its product with the bound lies in the window of `k`. -/
theorem index?_eq_some_iff (hn : 0 < n) (hsize : n < UInt64.size) :
    index? n v = some k ↔
      k * UInt64.size ≤ n * v.toNat ∧ n * v.toNat < k * UInt64.size + n * share n := by
  have hzone := zone_add_one hn
  have hfits := mul_share_le hn hsize
  simp only [index?, Option.ite_none_right_eq_some, Option.some.injEq, Nat.mul_comm v.toNat]
  generalize n * v.toNat = product
  rw [← hzone] at hfits ⊢
  simp only [UInt64.size] at hfits ⊢
  omega

/-- Multiples of `n` reach a window that is `n * m` wide with `m` numbers in a row. -/
theorem lt_ceilDiv_add_iff {start m w : Nat} (hn : 0 < n) :
    w < start ⌈/⌉ n + m ↔ n * w < start + n * m := by
  have hend : start ⌈/⌉ n + m = (start + n * m) ⌈/⌉ n := by
    rw [Nat.ceilDiv_eq_add_pred_div, Nat.ceilDiv_eq_add_pred_div, ← Nat.add_mul_div_left _ _ hn]
    congr 1
    omega
  rw [hend, ← Nat.not_le, ceilDiv_le_iff_le_mul hn, Nat.not_le]

/-- Each number below the bound has the same share of the words. -/
theorem ncard_index? (hsize : n < UInt64.size) (hk : k < n) :
    {v : UInt64 | index? n v = some k}.ncard = share n := by
  have hn : 0 < n := Nat.zero_lt_of_lt hk
  -- The least word that counts for `k`; the others follow it one by one.
  let first := (k * UInt64.size) ⌈/⌉ n
  have hmem (v : UInt64) :
      index? n v = some k ↔ v.toNat ∈ Finset.Ico first (first + share n) := by
    rw [index?_eq_some_iff hn hsize, Finset.mem_Ico, ceilDiv_le_iff_le_mul hn,
      lt_ceilDiv_add_iff hn]
  have hword {w : Nat} (hw : w ∈ Finset.Ico first (first + share n)) : w < UInt64.size := by
    apply Nat.lt_of_mul_lt_mul_left (a := n)
    calc n * w
        < k * UInt64.size + n * share n := (lt_ceilDiv_add_iff hn).1 (Finset.mem_Ico.1 hw).2
      _ ≤ k * UInt64.size + UInt64.size := Nat.add_le_add_left (mul_share_le hn hsize) _
      _ = (k + 1) * UInt64.size := (Nat.succ_mul _ _).symm
      _ ≤ n * UInt64.size := Nat.mul_le_mul_right _ hk
  have hcard : {v : UInt64 | index? n v = some k}.ncard =
      (Finset.Ico first (first + share n) : Set Nat).ncard := by
    apply Set.ncard_congr fun v _ => v.toNat
    · intro v hv
      exact (hmem v).1 hv
    · intro v w _ _ hvw
      exact UInt64.toNat_inj.1 hvw
    · intro w hw
      have htoNat : (UInt64.ofNat w).toNat = w := UInt64.toNat_ofNat_of_lt (hword hw)
      exact ⟨UInt64.ofNat w, (hmem _).2 (htoNat.symm ▸ hw), htoNat⟩
  rw [hcard, Set.ncard_coe_finset, Nat.card_Ico, Nat.add_sub_cancel_left]

/-- Zero counts for zero, whatever the bound. -/
theorem index?_zero (n : Nat) : index? n 0 = some 0 := by
  simp [index?]

/-! ### Draws without a bound -/

variable {σ : Type} [WordSource σ] {s s' : σ} {m limit : Nat}

/-- A draw from `s` looks at `m` words, answers `k` and leaves `s'`. There is no bound on the
words. -/
inductive Draws (n : Nat) : Nat → σ → Nat → σ → Prop
  /-- The first word counts. -/
  | counts {s : σ} {k : Nat} (h : index? n (next s).1 = some k) : Draws n 1 s k (next s).2
  /-- The first word is thrown away. -/
  | discarded {m k : Nat} {s s' : σ} (h : index? n (next s).1 = none)
      (hrest : Draws n m (next s).2 k s') : Draws n (m + 1) s k s'

theorem draws_succ_iff (h : index? n (next s).1 = none) :
    Draws n (m + 1) s k s' ↔ Draws n m (next s).2 k s' := by
  constructor
  · intro hdraws
    cases hdraws with
    | counts hk =>
      rw [h] at hk
      cases hk
    | discarded _ hrest => exact hrest
  · exact .discarded h

/-- With a bound that the draw keeps the answer is the same. -/
theorem Draws.belowWithin_eq (h : Draws n m s k s') (hm : m ≤ limit) :
    belowWithin limit n s = (k, s') := by
  induction h generalizing limit with
  | counts hk =>
    obtain ⟨l, rfl⟩ : ∃ l, limit = l + 1 := ⟨limit - 1, by omega⟩
    exact belowWithin_of_some hk
  | discarded hnone _ ih =>
    obtain ⟨l, rfl⟩ : ∃ l, limit = l + 1 := ⟨limit - 1, by omega⟩
    rw [belowWithin_of_none hnone]
    exact ih (by omega)

/-- A draw ends at the latest with a word that counts. -/
theorem exists_draws {i : Nat} (h : index? n (next (skip i s)).1 ≠ none) :
    ∃ m k s', m ≤ i + 1 ∧ Draws n m s k s' := by
  induction i generalizing s with
  | zero =>
    obtain ⟨k, hk⟩ := Option.ne_none_iff_exists'.1 h
    exact ⟨1, k, _, Nat.le_refl 1, .counts hk⟩
  | succ i ih =>
    cases hfirst : index? n (next s).1 with
    | some k => exact ⟨1, k, _, Nat.le_add_left 1 _, .counts hfirst⟩
    | none =>
      obtain ⟨m, k, s', hm, hrest⟩ := ih h
      exact ⟨m + 1, k, s', Nat.succ_le_succ hm, .discarded hfirst hrest⟩

theorem two_le_drawLimit : 2 ≤ drawLimit := by
  rw [drawLimit, Nat.shiftLeft_eq, Nat.one_mul]
  exact Nat.le_self_pow (by decide) 2

end Uniform

/-! ### Random moves -/

namespace MoveGraph

variable {σ : Type} [WordSource σ] {g : MoveGraph} {t : TileId} {a : AgentId} {d : Direction}
  {v : UInt64} {s s' : σ} {wish : Option Direction} {m limit : Nat}

theorem nodup_directions (g : MoveGraph) (t : TileId) (a : AgentId) :
    (g.directions t a).Nodup :=
  Direction.nodup_all.filter _

theorem length_directions_le (g : MoveGraph) (t : TileId) (a : AgentId) :
    (g.directions t a).length ≤ 4 :=
  List.length_filter_le _ _

theorem randomMoveWithin_of_two_le (h : 2 ≤ (g.directions t a).length) (limit : Nat) (s : σ) :
    g.randomMoveWithin limit t a s =
      ((g.directions t a)[(Uniform.belowWithin limit (g.directions t a).length s).1]?,
        (Uniform.belowWithin limit (g.directions t a).length s).2) := by
  simp only [randomMoveWithin]
  split
  · next hnil => simp [hnil] at h
  · next hone => simp [hone] at h
  · rfl

/-- A random move from `s` looks at `m` words, comes to `wish` and leaves `s'`. There is no bound on
the words. -/
inductive Moves (g : MoveGraph) (t : TileId) (a : AgentId) : Nat → σ → Option Direction → σ → Prop
  /-- There is nowhere to go. -/
  | trapped {s : σ} (h : g.directions t a = []) : Moves g t a 0 s none s
  /-- There is one way to go. -/
  | forced {s : σ} {d : Direction} (h : g.directions t a = [d]) : Moves g t a 0 s (some d) s
  /-- There are several ways to go. -/
  | drawn {s s' : σ} {m i : Nat} (h : 2 ≤ (g.directions t a).length)
      (hdraws : Uniform.Draws (g.directions t a).length m s i s') :
      Moves g t a m s (g.directions t a)[i]? s'

theorem Moves.randomMove_eq (h : g.Moves t a m s wish s') (hm : m ≤ Uniform.drawLimit) :
    g.randomMove t a s = (wish, s') := by
  cases h with
  | trapped hnil => simp only [randomMove, randomMoveWithin, hnil]
  | forced hone => simp only [randomMove, randomMoveWithin, hone]
  | drawn htwo hdraws =>
    rw [randomMove, randomMoveWithin_of_two_le htwo, hdraws.belowWithin_eq hm]

theorem moves_iff (h : 2 ≤ (g.directions t a).length) :
    g.Moves t a m s wish s' ↔
      ∃ i, Uniform.Draws (g.directions t a).length m s i s' ∧ wish = (g.directions t a)[i]? := by
  constructor
  · intro hmoves
    cases hmoves with
    | trapped hnil => simp [hnil] at h
    | forced hone => simp [hone] at h
    | drawn _ hdraws => exact ⟨_, hdraws, rfl⟩
  · rintro ⟨i, hdraws, rfl⟩
    exact .drawn h hdraws

/-- Whatever the source, if its first word is `v` then a random move goes in direction `d` and draws
no other word. -/
def Settles (g : MoveGraph) (t : TileId) (a : AgentId) (v : UInt64) (d : Direction) : Prop :=
  ∀ (σ : Type) [WordSource σ] (s : σ), (next s).1 = v → g.randomMove t a s = (some d, (next s).2)

/-- A word settles the move if it counts for the place of the direction. -/
theorem settles_iff (h : 2 ≤ (g.directions t a).length) :
    g.Settles t a v d ↔
      ∃ k, Uniform.index? (g.directions t a).length v = some k ∧
        (g.directions t a)[k]? = some d := by
  constructor
  · intro hsettles
    -- A source that counts its words tells whether the first one was enough.
    have hscript := hsettles Script ⟨[v], 0⟩ rfl
    cases hv : Uniform.index? (g.directions t a).length v with
    | some k =>
      have hmoves : g.Moves t a 1 (⟨[v], 0⟩ : Script) (g.directions t a)[k]? ⟨[], 1⟩ :=
        .drawn h (.counts hv)
      rw [hmoves.randomMove_eq (Nat.le_of_lt Uniform.two_le_drawLimit)] at hscript
      exact ⟨k, rfl, (Prod.ext_iff.1 hscript).1⟩
    | none =>
      have hmoves : g.Moves t a 2 (⟨[v], 0⟩ : Script) (g.directions t a)[0]? ⟨[], 2⟩ :=
        .drawn h (.discarded hv (.counts (Uniform.index?_zero _)))
      rw [hmoves.randomMove_eq Uniform.two_le_drawLimit] at hscript
      cases (Prod.ext_iff.1 hscript).2
  · rintro ⟨k, hk, hd⟩ σ _ s rfl
    have hmoves : g.Moves t a 1 s (g.directions t a)[k]? (next s).2 := .drawn h (.counts hk)
    rw [hmoves.randomMove_eq (Nat.le_of_lt Uniform.two_le_drawLimit), hd]

/-- A word that settles the move in no direction counts for nothing. -/
theorem index?_eq_none (h : 2 ≤ (g.directions t a).length) (hv : ∀ d, ¬ g.Settles t a v d) :
    Uniform.index? (g.directions t a).length v = none := by
  cases hk : Uniform.index? (g.directions t a).length v with
  | none => rfl
  | some k =>
    have hlt : k < (g.directions t a).length := Uniform.index?_lt hk (by omega)
    have hsettles := (settles_iff h).2 ⟨k, hk, List.getElem?_eq_getElem hlt⟩
    exact absurd hsettles (hv _)

/-- The words that settle the move in an open direction are its share. -/
theorem ncard_settles (h : 2 ≤ (g.directions t a).length) (hd : d ∈ g.directions t a) :
    {v | g.Settles t a v d}.ncard = Uniform.share (g.directions t a).length := by
  obtain ⟨k, hk, hdk⟩ := List.getElem_of_mem hd
  have hplace (j : Nat) : (g.directions t a)[j]? = some d ↔ j = k := by
    constructor
    · intro hj
      obtain ⟨hlt, hjd⟩ := List.getElem?_eq_some_iff.1 hj
      exact (List.Nodup.getElem_inj_iff (g.nodup_directions t a)).1 (hjd.trans hdk.symm)
    · rintro rfl
      exact List.getElem?_eq_some_iff.2 ⟨hk, hdk⟩
  have hset : {v | g.Settles t a v d} =
      {v | Uniform.index? (g.directions t a).length v = some k} := by
    ext v
    simp [settles_iff h, hplace]
  have hsize : (g.directions t a).length < UInt64.size :=
    Nat.lt_of_le_of_lt (g.length_directions_le t a) (by decide)
  rw [hset, Uniform.ncard_index? hsize hk]

/-- What random moves from a tile promise. -/
structure Fair (g : MoveGraph) (t : TileId) (a : AgentId) : Prop where
  /-- Where no direction is open nothing is drawn, and there is no move. -/
  trapped : g.directions t a = [] → ∀ {σ : Type} [WordSource σ] (s : σ),
    g.randomMove t a s = (none, s)
  /-- Where one direction is open nothing is drawn, and the move goes there. -/
  forced : ∀ d, g.directions t a = [d] → ∀ {σ : Type} [WordSource σ] (s : σ),
    g.randomMove t a s = (some d, s)
  /-- Where several are open each is settled at once by equally many words. -/
  equal : 2 ≤ (g.directions t a).length → ∀ d ∈ g.directions t a,
    {v | g.Settles t a v d}.ncard = if (g.directions t a).length = 4 then 2 ^ 61 else 2 ^ 62
  /-- All other words are thrown away: the move is the one of the source after the word. -/
  discards : 2 ≤ (g.directions t a).length → ∀ v, (∀ d, ¬ g.Settles t a v d) →
    ∀ {σ : Type} [WordSource σ] (s : σ), (next s).1 = v → ∀ m wish s',
      (g.Moves t a (m + 1) s wish s' ↔ g.Moves t a m (next s).2 wish s') ∧
      (g.Moves t a m (next s).2 wish s' → m < Uniform.drawLimit →
        g.randomMove t a s = g.randomMove t a (next s).2)
  /-- A move comes to what the loop without a bound comes to. -/
  computes : ∀ {σ : Type} [WordSource σ] (s : σ) m wish s', g.Moves t a m s wish s' →
    m ≤ Uniform.drawLimit → g.randomMove t a s = (wish, s')
  /-- The loop ends at the latest with a word that settles the move. -/
  ends : 2 ≤ (g.directions t a).length → ∀ {σ : Type} [WordSource σ] (s : σ) i d,
    g.Settles t a (next (skip i s)).1 d → ∃ m wish s', m ≤ i + 1 ∧ g.Moves t a m s wish s'

/-- **Random moves are fair.** Where nobody can go, or only in one direction, nothing is drawn.
Where two or three directions are open each of them has `2 ^ 62` words that settle the move at once,
and where all four are it has `2 ^ 61`; every other word is thrown away, and the move is made with
the words after it. -/
theorem fair_randomMove (g : MoveGraph) (t : TileId) (a : AgentId) : g.Fair t a where
  trapped hnil _ _ s := (Moves.trapped hnil).randomMove_eq (Nat.zero_le _)
  forced d hone _ _ s := (Moves.forced hone).randomMove_eq (Nat.zero_le _)
  equal h d hd := by
    have hle := g.length_directions_le t a
    rw [ncard_settles h hd]
    obtain h2 | h3 | h4 : (g.directions t a).length = 2 ∨ (g.directions t a).length = 3 ∨
        (g.directions t a).length = 4 := by omega
    · rw [h2]; rfl
    · rw [h3]; rfl
    · rw [h4]; rfl
  discards h v hv σ _ s hs m wish s' := by
    have hnone : Uniform.index? (g.directions t a).length (next s).1 = none :=
      index?_eq_none h (hs.symm ▸ hv)
    have hiff : g.Moves t a (m + 1) s wish s' ↔ g.Moves t a m (next s).2 wish s' := by
      simp only [moves_iff h, Uniform.draws_succ_iff hnone]
    refine ⟨hiff, fun hmoves hm => ?_⟩
    rw [(hiff.2 hmoves).randomMove_eq hm, hmoves.randomMove_eq (Nat.le_of_lt hm)]
  computes s m wish s' hmoves hm := hmoves.randomMove_eq hm
  ends h σ _ s i d hd := by
    obtain ⟨k, hk, -⟩ := (settles_iff h).1 hd
    obtain ⟨m, j, s', hm, hdraws⟩ := Uniform.exists_draws (by rw [hk]; nofun)
    exact ⟨m, _, s', hm, .drawn h hdraws⟩

/-- A tile from which every direction leads to an open tile. -/
def plaza : MoveGraph := ⟨fun _ d => some ⟨d.ordinal⟩, fun _ _ => true⟩

/-- On the plaza half of all words are thrown away. Of the others each direction has a quarter. -/
theorem fair_randomMove_plaza :
    {v | plaza.Settles ⟨0⟩ ⟨0⟩ v .north}.ncard = 2 ^ 61 :=
  (fair_randomMove plaza ⟨0⟩ ⟨0⟩).equal (by decide) .north (by decide)

end MoveGraph

end MazeChase
