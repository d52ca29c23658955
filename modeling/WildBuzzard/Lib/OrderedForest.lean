import Mathlib.Data.Finset.Card
import Mathlib.Data.Finset.Range
import Mathlib.Data.List.Nodup
import Mathlib.Data.List.Perm.Basic
import Mathlib.Logic.Function.Basic
import Mathlib.Logic.Relation

/-!
# Ordered forests

A forest over a type of nodes, as a mutable tree stores it: every node knows its parent, and every
node keeps the list of its children in order. The two agree (`mem_children`), a child list has no
repetition (`nodup`), and no node is its own proper ancestor (`acyclic`).

* **Two operations generate the rest.** `detach x` removes `x` from its parent; `attach x p l` hangs
  a detached `x` under `p`, giving `p` the child list `l`, any arrangement of `x` and the children
  `p` had. Moving a node is the first followed by the second, and a replacement is two detachments
  and an attachment.
* **Walking stops.** `walk children fuel [root] []` visits a tree with a stack. In a forest whose
  nodes lie in a finite set it ends within `s.card` steps (`walk_eq_some`): no node is pushed twice.
  It visits the nodes below the root (`mem_preorder`) in pre-order (`preorder_of_walk`).
* **Climbing stops.** `climb parent k x` goes `k` steps up. In an acyclic forest whose parents lie
  in a finite set `s`, no climb takes more than `s.card` steps (`climb_eq_none`), so a loop up the
  parent chain ends.
-/

namespace WildBuzzard.Lib

open Function List Relation

variable {α : Type} {parent : α → Option α}

/-! ## Parent functions -/

/-- `y` is the parent of `x`. -/
def ParentEdge (parent : α → Option α) (x y : α) : Prop := parent x = some y

/-- No node is its own proper ancestor. -/
def Acyclic (parent : α → Option α) : Prop := ∀ x, ¬Relation.TransGen (ParentEdge parent) x x

/-- `y` is `x` or one of its ancestors. -/
def AncestorOrSelf (parent : α → Option α) (x y : α) : Prop :=
  Relation.ReflTransGen (ParentEdge parent) x y

/-- `k` steps up the parent chain, if there are that many. -/
def climb (parent : α → Option α) : ℕ → α → Option α
  | 0, x => some x
  | k + 1, x => (parent x).bind (climb parent k)

@[simp] lemma climb_zero (x : α) : climb parent 0 x = some x := rfl

lemma climb_succ (k : ℕ) (x : α) : climb parent (k + 1) x = (parent x).bind (climb parent k) :=
  rfl

lemma climb_add (i j : ℕ) (x : α) :
    climb parent (i + j) x = (climb parent i x).bind (climb parent j) := by
  induction i generalizing x with
  | zero => simp
  | succ i ih =>
    rw [Nat.succ_add, climb_succ, climb_succ, Option.bind_assoc]
    exact congrArg _ (funext ih)

/-- A climb of at least one step stays on the ancestors. -/
lemma transGen_of_climb {k : ℕ} {x y : α} (h : climb parent (k + 1) x = some y) :
    TransGen (ParentEdge parent) x y := by
  induction k generalizing x with
  | zero =>
    obtain ⟨p, hp, hy⟩ := Option.bind_eq_some_iff.mp h
    cases hy
    exact .single hp
  | succ k ih =>
    obtain ⟨p, hp, hy⟩ := Option.bind_eq_some_iff.mp h
    exact .head hp (ih hy)

/-- **Climbing stops**: if every parent lies in a finite set, a chain of more than that many steps
would visit a node twice. -/
theorem climb_eq_none (hac : Acyclic parent) (s : Finset α)
    (hs : ∀ x y, parent x = some y → y ∈ s) {k : ℕ} (hk : s.card < k) (x : α) :
    climb parent k x = none := by
  rw [show k = (s.card + 1) + (k - (s.card + 1)) by omega, climb_add]
  suffices hstop : climb parent (s.card + 1) x = none by rw [hstop, Option.bind_none]
  by_contra hne
  obtain ⟨top, htop⟩ := Option.ne_none_iff_exists'.mp hne
  -- all the climbs of `1 .. card + 1` steps end somewhere in `s`
  have hex : ∀ i ∈ Finset.range (s.card + 1), ∃ y ∈ s, climb parent (i + 1) x = some y := by
    intro i hi
    have hle : i + 1 + (s.card - i) = s.card + 1 := by
      have := Finset.mem_range.mp hi
      omega
    rw [← hle, climb_add] at htop
    obtain ⟨y, hy, -⟩ := Option.bind_eq_some_iff.mp htop
    refine ⟨y, ?_, hy⟩
    rw [climb_add] at hy
    obtain ⟨z, -, hz⟩ := Option.bind_eq_some_iff.mp hy
    obtain ⟨p, hp, hpy⟩ := Option.bind_eq_some_iff.mp hz
    cases hpy
    exact hs _ _ hp
  have : Nonempty α := ⟨x⟩
  choose! f hfs hf using hex
  obtain ⟨i, hi, j, hj, hij, heq⟩ := Finset.exists_ne_map_eq_of_card_lt_of_maps_to
    (by simp : s.card < (Finset.range (s.card + 1)).card) hfs
  -- two of them end at the same node, the longer one by going round a cycle
  have cycle : ∀ a ∈ Finset.range (s.card + 1), ∀ b ∈ Finset.range (s.card + 1), a < b →
      f a = f b → False := by
    intro a ha b hb hab hfab
    have hb' := hf b hb
    rw [show b + 1 = (a + 1) + ((b - a - 1) + 1) by omega, climb_add, hf a ha,
      Option.bind_some, ← hfab] at hb'
    exact hac _ (transGen_of_climb hb')
  rcases Nat.lt_or_gt_of_ne hij with h | h
  · exact cycle i hi j hj h heq
  · exact cycle j hj i hi h heq.symm

/-! ## Changing one parent -/

section update

variable [DecidableEq α]

/-- Cutting a link adds none. -/
lemma parentEdge_of_update_none (x : α) :
    ParentEdge (update parent x none) ≤ ParentEdge parent := by
  intro a b hab
  unfold ParentEdge at hab ⊢
  by_cases hax : a = x
  · subst hax
    simp at hab
  · rwa [update_of_ne hax] at hab

/-- Cutting a parent link makes no cycle. -/
lemma Acyclic.update_none (hac : Acyclic parent) (x : α) : Acyclic (update parent x none) :=
  fun y hy => hac y (TransGen.mono (parentEdge_of_update_none x) _ _ hy)

/-- A node that is not above `p` is not above it either once a link is cut. -/
lemma not_ancestorOrSelf_update_none {p x : α} (hp : ¬AncestorOrSelf parent p x) (y : α) :
    ¬AncestorOrSelf (update parent y none) p x :=
  fun h => hp (ReflTransGen.mono (parentEdge_of_update_none y) _ _ h)

/-- With the new link `x → p`, a path that starts off the link either uses it or was there. -/
lemma transGen_update {x p a b : α} (h : TransGen (ParentEdge (update parent x (some p))) a b) :
    TransGen (ParentEdge parent) a b ∨ AncestorOrSelf parent a x ∧ AncestorOrSelf parent p b := by
  have edge : ∀ {a b}, ParentEdge (update parent x (some p)) a b →
      ParentEdge parent a b ∨ a = x ∧ p = b := by
    intro a b hab
    unfold ParentEdge at hab ⊢
    by_cases hax : a = x
    · subst hax
      rw [update_self] at hab
      exact Or.inr ⟨rfl, Option.some.inj hab⟩
    · rw [update_of_ne hax] at hab
      exact Or.inl hab
  induction h with
  | single hab =>
    rcases edge hab with h | ⟨rfl, rfl⟩
    · exact Or.inl (.single h)
    · exact Or.inr ⟨.refl, .refl⟩
  | tail _ hbc ih =>
    rcases ih with hin | ⟨hax, hpb⟩
    · rcases edge hbc with h | ⟨rfl, rfl⟩
      · exact Or.inl (hin.tail h)
      · exact Or.inr ⟨hin.to_reflTransGen, .refl⟩
    · rcases edge hbc with h | ⟨rfl, rfl⟩
      · exact Or.inr ⟨hax, hpb.tail h⟩
      · exact Or.inr ⟨hax, .refl⟩

/-- Hanging `x` under `p` makes no cycle unless `x` is `p` or one of its ancestors. -/
lemma Acyclic.update_some (hac : Acyclic parent) {x p : α} (hp : ¬AncestorOrSelf parent p x) :
    Acyclic (update parent x (some p)) := by
  intro y hy
  rcases transGen_update hy with h | ⟨hyx, hpy⟩
  · exact hac y h
  · exact hp (hpy.trans hyx)

end update

/-! ## Forests -/

/-- Parents and ordered child lists that describe one forest. -/
structure OrderedForest (parent : α → Option α) (children : α → List α) : Prop where
  /-- The two descriptions agree. -/
  mem_children : ∀ {p c}, c ∈ children p ↔ parent c = some p
  /-- A child occurs once. -/
  nodup : ∀ p, (children p).Nodup
  acyclic : Acyclic parent

namespace OrderedForest

variable {children : α → List α}

/-- A node without children is above no other. -/
lemma not_ancestorOrSelf_of_childless (h : OrderedForest parent children) {x y : α}
    (hx : children x = []) (hne : y ≠ x) : ¬AncestorOrSelf parent y x := by
  intro hanc
  rcases ReflTransGen.cases_tail hanc with heq | ⟨c, -, hc⟩
  · exact hne heq.symm
  · have hmem : c ∈ children x := h.mem_children.mpr hc
    rw [hx] at hmem
    cases hmem

variable [DecidableEq α]

/-- Taking `x` off its parent. -/
lemma detach (h : OrderedForest parent children) (x : α) :
    OrderedForest (update parent x none) (fun p => (children p).filter (· ≠ x)) where
  mem_children := by
    intro p c
    by_cases hc : c = x
    · subst hc
      simp
    · simp [hc, h.mem_children]
  nodup p := (h.nodup p).filter _
  acyclic := h.acyclic.update_none x

/-- Hanging a detached `x` under `p`, whose children become `l`. -/
lemma attach (h : OrderedForest parent children) {x p : α} {l : List α} (hx : parent x = none)
    (hl : l.Perm (x :: children p)) (hp : ¬AncestorOrSelf parent p x) :
    OrderedForest (update parent x (some p)) (update children p l) where
  mem_children := by
    intro q c
    by_cases hq : q = p
    · subst hq
      rw [update_self, hl.mem_iff, mem_cons, h.mem_children]
      by_cases hc : c = x
      · subst hc
        simp
      · simp [hc]
    · rw [update_of_ne hq, h.mem_children]
      by_cases hc : c = x
      · subst hc
        simp [hx, Ne.symm hq]
      · rw [update_of_ne hc]
  nodup q := by
    by_cases hq : q = p
    · subst hq
      rw [update_self, hl.nodup_iff, nodup_cons]
      refine ⟨?_, h.nodup q⟩
      intro hmem
      rw [h.mem_children, hx] at hmem
      cases hmem
    · rw [update_of_ne hq]
      exact h.nodup q
  acyclic := h.acyclic.update_some hp

end OrderedForest

/-! ## Visiting a tree -/

/-- Visit nodes from a stack (top first), pushing the children of each visited node; `none` if the
fuel runs out. -/
def walk (children : α → List α) : ℕ → List α → List α → Option (List α)
  | _, [], result => some result
  | 0, _ :: _, _ => none
  | fuel + 1, x :: pending, result => walk children fuel (children x ++ pending) (result ++ [x])

/-- The nodes of some trees, given by their roots, in pre-order: a node comes before its children,
and what is below one child before the next child. -/
inductive InPreorder (children : α → List α) : List α → List α → Prop
  | nil : InPreorder children [] []
  | cons {x : α} {rest below after : List α} (hbelow : InPreorder children (children x) below)
      (hafter : InPreorder children rest after) :
      InPreorder children (x :: rest) (x :: (below ++ after))

variable {children : α → List α}

lemma InPreorder.of_append {xs ys l : List α} (h : InPreorder children (xs ++ ys) l) :
    ∃ l₁ l₂, l = l₁ ++ l₂ ∧ InPreorder children xs l₁ ∧ InPreorder children ys l₂ := by
  induction xs generalizing l with
  | nil => exact ⟨[], l, rfl, .nil, h⟩
  | cons x xs ih =>
    cases h with
    | @cons _ _ below after hbelow hafter =>
      obtain ⟨l₁, l₂, rfl, h₁, h₂⟩ := ih hafter
      exact ⟨x :: (below ++ l₁), l₂, by simp, .cons hbelow h₁, h₂⟩

/-- **A walk visits the trees on its stack in pre-order.** -/
theorem preorder_of_walk {fuel : ℕ} {pending result order : List α}
    (h : walk children fuel pending result = some order) :
    ∃ l, InPreorder children pending l ∧ order = result ++ l := by
  induction fuel generalizing pending result with
  | zero =>
    cases pending with
    | nil => exact ⟨[], .nil, by simpa [walk] using h.symm⟩
    | cons x pending => cases h
  | succ fuel ih =>
    cases pending with
    | nil => exact ⟨[], .nil, by simpa [walk] using h.symm⟩
    | cons x pending =>
      obtain ⟨l, hl, rfl⟩ := ih h
      obtain ⟨l₁, l₂, rfl, h₁, h₂⟩ := hl.of_append
      exact ⟨x :: (l₁ ++ l₂), .cons h₁ h₂, by simp⟩

namespace OrderedForest

variable {children : α → List α}

/-- A pre-order has the nodes below its roots. -/
lemma mem_preorder (h : OrderedForest parent children) {roots l : List α}
    (hl : InPreorder children roots l) {x : α} :
    x ∈ l ↔ ∃ r ∈ roots, AncestorOrSelf parent x r := by
  induction hl with
  | nil => simp
  | @cons r rest below after _ _ ihbelow ihafter =>
    have hr : AncestorOrSelf parent x r ↔ x = r ∨ x ∈ below := by
      rw [ihbelow]
      constructor
      · intro hx
        rcases ReflTransGen.cases_tail hx with rfl | ⟨c, hxc, hc⟩
        · exact .inl rfl
        · exact .inr ⟨c, h.mem_children.mpr hc, hxc⟩
      · rintro (rfl | ⟨c, hc, hxc⟩)
        · exact .refl
        · exact hxc.tail (h.mem_children.mp hc)
    simp [hr, ihafter, or_assoc]

/-- What holds of the visited nodes and the stack: no node is on them twice, and each is below the
root and was pushed when its parent was visited. -/
structure WalkInv (parent : α → Option α) (root : α) (result pending : List α) : Prop where
  nodup : (result ++ pending).Nodup
  below : ∀ x ∈ result ++ pending, AncestorOrSelf parent x root
  pushed : ∀ x ∈ result ++ pending, x = root ∨ ∃ p ∈ result, parent x = some p

lemma WalkInv.start (parent : α → Option α) (root : α) : WalkInv parent root [] [root] where
  nodup := by simp
  below := by simp [AncestorOrSelf, ReflTransGen.refl]
  pushed := by simp

lemma WalkInv.step (h : OrderedForest parent children) {root x : α} {result pending : List α}
    (inv : WalkInv parent root result (x :: pending)) :
    WalkInv parent root (result ++ [x]) (children x ++ pending) where
  nodup := by
    have hx : x ∉ result := by
      have := (nodup_append.mp inv.nodup).2.2
      exact fun hmem => this x hmem x (by simp) rfl
    -- a child of `x` cannot have been pushed before: its parent was not visited
    have hfresh : ∀ c ∈ children x, c ∉ result ++ x :: pending := by
      intro c hc hmem
      have hcx : parent c = some x := h.mem_children.mp hc
      rcases inv.pushed c hmem with rfl | ⟨p, hp, hcp⟩
      · exact h.acyclic c (.head' hcx (inv.below x (by simp)))
      · rw [hcx] at hcp
        cases hcp
        exact hx hp
    have hperm : (result ++ [x] ++ (children x ++ pending)).Perm
        (children x ++ (result ++ x :: pending)) := by
      simp only [append_assoc, singleton_append]
      exact (perm_middle.symm.append_left result).trans (perm_append_comm_assoc ..)
    rw [hperm.nodup_iff, nodup_append]
    refine ⟨h.nodup x, inv.nodup, ?_⟩
    rintro c hc y hy rfl
    exact hfresh c hc hy
  below := by
    intro y hy
    simp only [mem_append, mem_singleton] at hy
    rcases hy with (hy | rfl) | hy | hy
    · exact inv.below y (by simp [hy])
    · exact inv.below y (by simp)
    · exact .head (h.mem_children.mp hy) (inv.below x (by simp))
    · exact inv.below y (by simp [hy])
  pushed := by
    intro y hy
    simp only [mem_append, mem_singleton] at hy
    rcases hy with (hy | rfl) | hy | hy
    · rcases inv.pushed y (by simp [hy]) with h' | ⟨p, hp, hyp⟩
      · exact Or.inl h'
      · exact Or.inr ⟨p, by simp [hp], hyp⟩
    · rcases inv.pushed y (by simp) with h' | ⟨p, hp, hyp⟩
      · exact Or.inl h'
      · exact Or.inr ⟨p, by simp [hp], hyp⟩
    · exact Or.inr ⟨x, by simp, h.mem_children.mp hy⟩
    · rcases inv.pushed y (by simp [hy]) with h' | ⟨p, hp, hyp⟩
      · exact Or.inl h'
      · exact Or.inr ⟨p, by simp [hp], hyp⟩

/-- **Walking stops**: the visited nodes are distinct nodes of the set. -/
theorem walk_eq_some (h : OrderedForest parent children) {root : α} (s : Finset α)
    (hs : ∀ x p, parent x = some p → x ∈ s) (hmem : root ∈ s) {fuel : ℕ}
    {pending result : List α} (inv : WalkInv parent root result pending)
    (hfuel : s.card < fuel + result.length) :
    ∃ order, walk children fuel pending result = some order ∧ order.Nodup := by
  classical
  induction fuel generalizing pending result with
  | zero =>
    have hcard : result.length ≤ s.card := by
      have hnodup : result.Nodup := (nodup_append.mp inv.nodup).1
      rw [← toFinset_card_of_nodup hnodup]
      refine Finset.card_le_card ?_
      intro x hx
      rcases inv.pushed x (by simp [mem_toFinset.mp hx]) with rfl | ⟨p, -, hp⟩
      · exact hmem
      · exact hs x p hp
    omega
  | succ fuel ih =>
    cases pending with
    | nil => exact ⟨result, rfl, by simpa using inv.nodup⟩
    | cons x pending =>
      refine ih (WalkInv.step h inv) ?_
      rw [length_append, length_singleton]
      omega

end OrderedForest

end WildBuzzard.Lib
