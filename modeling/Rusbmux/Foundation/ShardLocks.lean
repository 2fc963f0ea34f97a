import Rusbmux.Foundation.Machine

/-!
# Locks of a sharded table

A table is split into shards, each with a lock of its own.  Some task holds a
shard while it waits for something else; an operation that writes takes the
locks of the shards it needs one after the other.  A lock view reads off a state
which shards are held and which ones an operation still has to take.
-/

namespace Foundation

/-- The shards of a table, and the shard of every key. -/
structure ShardMap (key : Type) where
  count : Nat
  shardOf : key -> Nat
  shardOf_lt : forall k, shardOf k < count

/-- All shards of the table, in the order in which they are gone through. -/
def ShardMap.all {key : Type} (map : ShardMap key) : List Nat :=
  List.range map.count

theorem ShardMap.shardOf_mem_all {key : Type} (map : ShardMap key) (k : key) :
    map.shardOf k ∈ map.all :=
  List.mem_range.mpr (map.shardOf_lt k)

def ShardMap.modulo {key : Type} (toNat : key -> Nat) (count : Nat)
    (hcount : 0 < count) : ShardMap key where
  count := count
  shardOf k := toNat k % count
  shardOf_lt k := Nat.mod_lt (toNat k) hcount

theorem ShardMap.foldl_filter_shards {key value : Type} (map : ShardMap key)
    (keyOf : value -> key) (keep : value -> Bool) (shards : List Nat)
    (l : List value) :
    shards.foldl (fun l shard =>
        l.filter fun x => map.shardOf (keyOf x) ≠ shard || keep x) l =
      l.filter fun x => !shards.contains (map.shardOf (keyOf x)) || keep x := by
  induction shards generalizing l with
  | nil => simp
  | cons shard rest ih =>
      rw [List.foldl_cons, ih, List.filter_filter]
      apply List.filter_congr
      intro x _
      by_cases hshard : map.shardOf (keyOf x) = shard
      · cases keep x <;> simp [hshard]
      · simp [hshard]

theorem ShardMap.foldl_filter_all {key value : Type} (map : ShardMap key)
    (keyOf : value -> key) (keep : value -> Bool) (l : List value) :
    map.all.foldl (fun l shard =>
        l.filter fun x => map.shardOf (keyOf x) ≠ shard || keep x) l =
      l.filter keep := by
  rw [map.foldl_filter_shards]
  apply List.filter_congr
  intro x _
  rw [List.contains_iff_mem.mpr (map.shardOf_mem_all (keyOf x))]
  rfl

structure LockView (state task : Type) where
  held : state -> Nat -> Prop
  agenda : state -> task -> List Nat

namespace LockView

variable {state action task : Type} {V : LockView state task}
variable {M : Machine state action} {s t : state}

def Blocked (V : LockView state task) (s : state) (w : task) : Prop :=
  exists shard rest, V.agenda s w = shard :: rest ∧ V.held s shard

def Unblocked (V : LockView state task) (s : state) : Prop :=
  forall w, ¬ V.Blocked s w

def Respects (V : LockView state task) (M : Machine state action) : Prop :=
  forall s a t, M s a = some t -> forall w shard, shard ∈ V.agenda s w ->
    V.held s shard -> shard ∈ V.agenda t w

theorem not_blocked_of_free {w : task} (hfree : forall shard, ¬ V.held s shard) :
    ¬ V.Blocked s w := by
  intro h
  rcases h with ⟨shard, _, _, hheld⟩
  exact hfree shard hheld

def Pending (V : LockView state task) (s : state) (shard : Nat) : Prop :=
  exists w, shard ∈ V.agenda s w

def Clear (V : LockView state task) (s : state) : Prop :=
  forall shard, V.Pending s shard -> ¬ V.held s shard

theorem Clear.unblocked (h : V.Clear s) : V.Unblocked s := by
  intro w hblocked
  rcases hblocked with ⟨shard, rest, hnext, hheld⟩
  have hpending : V.Pending s shard := by
    refine ⟨w, ?_⟩
    rw [hnext]
    exact List.mem_cons_self
  exact h shard hpending hheld

theorem exists_of_not_clear (h : ¬ V.Clear s) :
    exists w shard, shard ∈ V.agenda s w ∧ V.held s shard := by
  by_contra hnone
  apply h
  intro shard hpending hheld
  rcases hpending with ⟨w, hmem⟩
  exact hnone ⟨w, shard, hmem, hheld⟩

theorem Clear.of_fewer (h : V.Clear s)
    (hagenda : forall w shard, shard ∈ V.agenda t w -> shard ∈ V.agenda s w)
    (hheld : forall shard, V.held t shard -> V.held s shard) : V.Clear t := by
  intro shard hpending hnow
  rcases hpending with ⟨w, hmem⟩
  exact h shard ⟨w, hagenda w shard hmem⟩ (hheld shard hnow)

theorem clear_iff_of_taken {taken : Nat -> Prop}
    (hagenda : forall w, V.agenda t w = V.agenda s w)
    (hheld : forall shard, V.held t shard <-> V.held s shard ∨ taken shard) :
    V.Clear t <->
      V.Clear s ∧ forall shard, taken shard -> ¬ V.Pending s shard := by
  unfold Clear Pending
  simp only [hagenda, hheld]
  constructor
  · intro h
    constructor
    · intro shard hpending hnow
      exact h shard hpending (Or.inl hnow)
    · intro shard htaken hpending
      exact h shard hpending (Or.inr htaken)
  · intro h shard hpending hnow
    rcases hnow with hbefore | htaken
    · exact h.left shard hpending hbefore
    · exact h.right shard htaken hpending

theorem clear_iff_of_begun {begun : task} (hidle : V.agenda s begun = [])
    (hagenda : forall w, w ≠ begun -> V.agenda t w = V.agenda s w)
    (hheld : forall shard, V.held t shard <-> V.held s shard) :
    V.Clear t <->
      V.Clear s ∧ forall shard, shard ∈ V.agenda t begun ->
        ¬ V.held s shard := by
  constructor
  · intro h
    constructor
    · intro shard hpending hnow
      rcases hpending with ⟨w, hmem⟩
      have hother : w ≠ begun := by
        intro hsame
        subst hsame
        rw [hidle] at hmem
        cases hmem
      rw [← hagenda w hother] at hmem
      exact h shard ⟨w, hmem⟩ ((hheld shard).mpr hnow)
    · intro shard hmem hnow
      exact h shard ⟨begun, hmem⟩ ((hheld shard).mpr hnow)
  · intro h shard hpending hnow
    rcases hpending with ⟨w, hmem⟩
    rw [hheld shard] at hnow
    by_cases hsame : w = begun
    · subst hsame
      exact h.right shard hmem hnow
    · rw [hagenda w hsame] at hmem
      exact h.left shard ⟨w, hmem⟩ hnow

/--
An operation that has still to take a held shard comes to one that is held, if
it can always go on past one that is not.
-/
theorem exists_blocked {C : action -> Prop} {w : task}
    (hmove : forall s shard rest, V.agenda s w = shard :: rest ->
      ¬ V.held s shard -> exists later t, (forall a, a ∈ later -> C a) ∧
        M.run s later = some t ∧ V.agenda t w = rest ∧
        forall other, V.held s other -> V.held t other)
    {shard : Nat} (hneeds : shard ∈ V.agenda s w) (hheld : V.held s shard) :
    exists later t, (forall a, a ∈ later -> C a) ∧
      M.run s later = some t ∧ V.Blocked t w := by
  generalize hagenda : V.agenda s w = shards at hneeds
  induction shards generalizing s with
  | nil => cases hneeds
  | cons first rest ih =>
      by_cases hfirst : V.held s first
      · exact ⟨[], s, nofun, rfl, first, rest, hagenda, hfirst⟩
      · rcases hmove s first rest hagenda hfirst with
          ⟨later, t, hlater, hrun, hrest, hkept⟩
        have hin : shard ∈ rest := by
          rcases List.mem_cons.mp hneeds with rfl | hin
          · exact absurd hheld hfirst
          · exact hin
        rcases ih (hkept shard hheld) hrest hin with
          ⟨after, u, hafter, hgoes, hblocked⟩
        refine ⟨later ++ after, u, ?_, ?_, hblocked⟩
        · intro a ha
          rcases List.mem_append.mp ha with hfst | hsnd
          · exact hlater a hfst
          · exact hafter a hsnd
        · rw [Machine.run_append_of_run hrun]
          exact hgoes

theorem Respects.run (h : V.Respects M) {w : task} {shard : Nat}
    {actions : List action}
    (hheld : Machine.Throughout M (fun u => V.held u shard) s actions)
    (hrun : Machine.run M s actions = some t)
    (hneeds : shard ∈ V.agenda s w) : shard ∈ V.agenda t w := by
  induction actions generalizing s with
  | nil =>
      cases hrun
      exact hneeds
  | cons a rest ih =>
      rcases Machine.run_cons_some hrun with ⟨u, hstep, hrest⟩
      rcases (Machine.throughout_cons M _ s a rest).mp hheld with
        ⟨hnow, hlater⟩
      exact ih (hlater u hstep) hrest (h s a u hstep w shard hneeds hnow)

end LockView

end Foundation
