import Mathlib.Data.List.Nodup
import ProofScript.Proofs.Naming.Renamed

/-!
# Two walks that give out names, side by side

When two signatures are given canonical names, a link is made whenever both walks give out the same
name: it holds the two names that are replaced and the one that they are replaced by. As long as the
walks give out the same names, both scopes can be read off the links, and so can the names that
correspond.
-/
namespace ProofScript

theorem Renaming.lookup_cons (entries : Renaming) (name other given : String) :
    List.lookup name ((other, given) :: entries) =
      if name = other then some given else entries.lookup name := by
  by_cases same : name = other
  · rw [if_pos same, same, List.lookup_cons_self]
  · rw [if_neg same, List.lookup_cons, beq_eq_false_iff_ne.mpr same]

/-- Two names with the name that both of them were given. -/
structure Link where
  left : String
  right : String
  given : String

abbrev Links := List Link

namespace Links

/-- What the first walk has given out. -/
def left (links : Links) : Renaming :=
  links.map fun link => (link.left, link.given)

/-- What the second walk has given out. -/
def right (links : Links) : Renaming :=
  links.map fun link => (link.right, link.given)

def pairs (links : Links) : Pairs :=
  links.map fun link => (link.left, link.right)

variable {links : Links} {name name' given : String}

theorem lookup_of_paired (paired : Paired links.pairs name name') :
    ∃ given, links.left.lookup name = some given ∧ links.right.lookup name' = some given := by
  induction links with
  | nil => cases paired
  | cons link links ih =>
    cases paired with
    | here => exact ⟨link.given, List.lookup_cons_self, List.lookup_cons_self⟩
    | there leftNe rightNe inner =>
      obtain ⟨given, first, second⟩ := ih inner
      refine ⟨given, ?_, ?_⟩
      · rw [left, List.map_cons, Renaming.lookup_cons, if_neg leftNe]
        exact first
      · rw [right, List.map_cons, Renaming.lookup_cons, if_neg rightNe]
        exact second

/-- What either walk has given out belongs to a link. -/
theorem mem_of_lookup {side : Link → String}
    (found : (links.map fun link => (side link, link.given)).lookup name = some given) :
    given ∈ links.map Link.given := by
  obtain ⟨link, member, same⟩ := List.mem_map.mp (Renaming.mem_of_lookup_eq_some found)
  exact List.mem_map.mpr ⟨link, member, congrArg Prod.snd same⟩

/-- Names that were given the same name correspond. -/
theorem paired_of_lookup (distinct : (links.map Link.given).Nodup)
    (first : links.left.lookup name = some given) (second : links.right.lookup name' = some given) :
    Paired links.pairs name name' := by
  induction links with
  | nil => cases first
  | cons link links ih =>
    obtain ⟨unused, distinct⟩ := List.nodup_cons.mp distinct
    rw [left, List.map_cons, Renaming.lookup_cons] at first
    rw [right, List.map_cons, Renaming.lookup_cons] at second
    -- the last link has both names or neither: what it gives out occurs in no earlier one
    by_cases leftSame : name = link.left <;> by_cases rightSame : name' = link.right
    · rw [leftSame, rightSame]
      exact .here
    · rw [if_pos leftSame, Option.some.injEq] at first
      rw [if_neg rightSame] at second
      exact absurd (first ▸ mem_of_lookup second) unused
    · rw [if_pos rightSame, Option.some.injEq] at second
      rw [if_neg leftSame] at first
      exact absurd (second ▸ mem_of_lookup first) unused
    · rw [if_neg leftSame] at first
      rw [if_neg rightSame] at second
      exact .there leftSame rightSame (ih distinct first second)

theorem unpaired_iff : Unpaired links.pairs name name' ↔
    links.left.lookup name = none ∧ links.right.lookup name' = none := by
  rw [Renaming.lookup_eq_none_iff, Renaming.lookup_eq_none_iff, Unpaired, left, right, pairs,
    List.map_map, List.map_map, List.map_map, List.map_map]
  rfl

/-- Two names that occur in the same links were given the same name, if they were given one. -/
theorem lookup_eq_of_iff (same : ∀ link ∈ links, name = link.left ↔ name' = link.right) :
    links.left.lookup name = links.right.lookup name' := by
  induction links with
  | nil => rfl
  | cons link links ih =>
    have first := same link List.mem_cons_self
    have rest := ih fun other member => same other (List.mem_cons_of_mem _ member)
    rw [left, right, List.map_cons, List.map_cons, Renaming.lookup_cons, Renaming.lookup_cons]
    by_cases leftSame : name = link.left
    · rw [if_pos leftSame, if_pos (first.mp leftSame)]
    · rw [if_neg leftSame, if_neg (mt first.mpr leftSame)]
      exact rest

end Links

/-- Both walks over terms have the same scopes, up to names, and have given out as many names.
`index` is the number of parameters declared. -/
structure Linked (index : Nat) (bound known : Links) (naming naming' : Naming) : Prop where
  left : naming.scope = known.left
  right : naming'.scope = known.right
  count : naming.fresh = naming'.fresh
  distinct : ((bound ++ known).map Link.given).Nodup
  used : ∀ link ∈ bound ++ known,
    (∃ number, number < index ∧ link.given = "p" ++ toString number) ∨
      ∃ number, number < naming.fresh ∧ link.given = "v" ++ toString number

namespace Linked

variable {index : Nat} {bound known : Links} {naming naming' : Naming} {name name' given : String}

theorem left_scope (linked : Linked index bound known naming naming') :
    bound.left ++ naming.scope = (bound ++ known).left := by
  rw [linked.left, Links.left, Links.left, Links.left, List.map_append]

theorem right_scope (linked : Linked index bound known naming naming') :
    bound.right ++ naming'.scope = (bound ++ known).right := by
  rw [linked.right, Links.right, Links.right, Links.right, List.map_append]

theorem pairs_scope : bound.pairs ++ known.pairs = (bound ++ known).pairs :=
  List.map_append.symm

/-- The next `v` name has not been given out. -/
theorem next_unused (linked : Linked index bound known naming naming') :
    "v" ++ toString naming.fresh ∉ (bound ++ known).map Link.given := by
  intro member
  obtain ⟨link, inside, same⟩ := List.mem_map.mp member
  rcases linked.used link inside with ⟨number, -, param⟩ | ⟨number, below, variableName⟩
  · exact param_ne_variable _ _ (param.symm.trans same)
  · have equal := numbered_injective "v" (variableName.symm.trans same)
    omega

/-- What has been given out is spelled like a generated name. -/
theorem generated (linked : Linked index bound known naming naming')
    (member : given ∈ (bound ++ known).map Link.given) : Generated given := by
  obtain ⟨link, inside, rfl⟩ := List.mem_map.mp member
  rcases linked.used link inside with ⟨number, -, param⟩ | ⟨number, -, variableName⟩
  · exact ⟨number, .inl param⟩
  · exact ⟨number, .inr variableName⟩

theorem empty : Linked 0 [] [] ⟨[], 0⟩ ⟨[], 0⟩ where
  left := rfl
  right := rfl
  count := rfl
  distinct := List.nodup_nil
  used link member := by cases member

theorem declare (linked : Linked index [] known naming naming') (name name' : String) :
    Linked (index + 1) [] (⟨name, name', "p" ++ toString index⟩ :: known)
      { naming with scope := (name, "p" ++ toString index) :: naming.scope }
      { naming' with scope := (name', "p" ++ toString index) :: naming'.scope } where
  left := congrArg _ linked.left
  right := congrArg _ linked.right
  count := linked.count
  distinct := by
    refine List.nodup_cons.mpr ⟨fun member => ?_, linked.distinct⟩
    obtain ⟨link, inside, same⟩ := List.mem_map.mp member
    rcases linked.used link inside with ⟨number, below, param⟩ | ⟨number, -, variableName⟩
    · have equal := numbered_injective "p" (param.symm.trans same)
      omega
    · exact param_ne_variable _ _ (same.symm.trans variableName)
  used link member := by
    rcases List.mem_cons.mp member with rfl | earlier
    · exact .inl ⟨index, Nat.lt_succ_self index, rfl⟩
    · exact (linked.used link earlier).imp_left fun ⟨number, below, same⟩ =>
        ⟨number, Nat.lt_succ_of_lt below, same⟩

/-- The link that is made when both walks give out their next `v` name. -/
private theorem used_next (linked : Linked index bound known naming naming') {link : Link}
    (member : link = ⟨name, name', "v" ++ toString naming.fresh⟩ ∨ link ∈ bound ++ known) :
    (∃ number, number < index ∧ link.given = "p" ++ toString number) ∨
      ∃ number, number < naming.fresh + 1 ∧ link.given = "v" ++ toString number := by
  rcases member with rfl | earlier
  · exact .inr ⟨naming.fresh, Nat.lt_succ_self _, rfl⟩
  · exact (linked.used link earlier).imp_right fun ⟨number, below, same⟩ =>
      ⟨number, Nat.lt_succ_of_lt below, same⟩

theorem bind (linked : Linked index bound known naming naming') (name name' : String) :
    Linked index (⟨name, name', "v" ++ toString naming.fresh⟩ :: bound) known naming.next.2
      naming'.next.2 where
  left := linked.left
  right := linked.right
  count := congrArg (· + 1) linked.count
  distinct := List.nodup_cons.mpr ⟨linked.next_unused, linked.distinct⟩
  used _ member := linked.used_next (List.mem_cons.mp member)

theorem leave {link : Link} (linked : Linked index (link :: bound) known naming naming') :
    Linked index bound known naming naming' where
  left := linked.left
  right := linked.right
  count := linked.count
  distinct := (List.nodup_cons.mp linked.distinct).2
  used link member := linked.used link (List.mem_cons_of_mem _ member)

theorem meet (linked : Linked index bound known naming naming') (name name' : String) :
    Linked index bound (⟨name, name', "v" ++ toString naming.fresh⟩ :: known)
      ⟨(name, "v" ++ toString naming.fresh) :: naming.scope, naming.fresh + 1⟩
      ⟨(name', "v" ++ toString naming'.fresh) :: naming'.scope, naming'.fresh + 1⟩ where
  left := congrArg _ linked.left
  right := by
    rw [linked.right, ← linked.count]
    rfl
  count := congrArg (· + 1) linked.count
  distinct := by
    -- the new link stands behind the binders, which does not matter for being distinct
    rw [List.map_append, List.map_cons, List.nodup_middle, ← List.map_append, List.nodup_cons]
    exact ⟨linked.next_unused, linked.distinct⟩
  used link member := by
    rw [List.mem_append, List.mem_cons, or_left_comm, ← List.mem_append] at member
    exact linked.used_next member

end Linked

end ProofScript
