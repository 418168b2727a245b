import Mathlib.Data.List.Basic

/-!
# Following links

A site answers an address with a page (`get`), and a page may offer a link to another address
(`link`). Whoever follows the links from an address visits the pages of a `Walk`, which ends at a
page without a link. There is at most one walk from an address (`Walk.unique`). There is one, so the
links end, when every link leads to a page of smaller measure (`exists_walk`).

A site that shows a list in pages of `limit` items, each page with the items from some offset on and
a link to the offset after them while there are more, shows the whole list (`Walk.flatMap_eq_drop`).
-/

universe u v w

section Links

variable {α : Type u} {β : Type v} {γ : Type w}

/-- The pages visited by following the links from an address to their end. -/
inductive Walk (get : α → Option β) (link : β → Option α) : α → List β → Prop
  | last {a : α} {page : β} : get a = some page → link page = none → Walk get link a [page]
  | next {a b : α} {page : β} {pages : List β} :
    get a = some page → link page = some b → Walk get link b pages →
      Walk get link a (page :: pages)

variable {get : α → Option β} {link : β → Option α} {a : α} {pages pages' : List β} {page : β}

/-- There is at most one walk from an address. -/
theorem Walk.unique (h : Walk get link a pages) (h' : Walk get link a pages') : pages = pages' := by
  induction h generalizing pages' with
  | last hget hlink =>
    cases h' with
    | last hget' => rw [Option.some.inj (hget.symm.trans hget')]
    | next hget' hlink' =>
      obtain rfl := Option.some.inj (hget.symm.trans hget')
      cases hlink.symm.trans hlink'
  | next hget hlink _ ih =>
    cases h' with
    | last hget' hlink' =>
      obtain rfl := Option.some.inj (hget.symm.trans hget')
      cases hlink.symm.trans hlink'
    | next hget' hlink' hrest =>
      obtain rfl := Option.some.inj (hget.symm.trans hget')
      obtain rfl := Option.some.inj (hlink.symm.trans hlink')
      rw [ih hrest]

/-- **Links that lead to smaller pages end**, from an address of a kind that the links keep. -/
theorem exists_walk {I : α → Prop} (measure : β → ℕ)
    (hsmaller : ∀ a page b, I a → get a = some page → link page = some b →
      I b ∧ ∃ page', get b = some page' ∧ measure page' < measure page)
    (ha : I a) (hget : get a = some page) : ∃ pages, Walk get link a pages := by
  induction hm : measure page using Nat.strongRecOn generalizing a page with
  | _ m ih =>
    cases hlink : link page with
    | none => exact ⟨_, .last hget hlink⟩
    | some b =>
      obtain ⟨hb, page', hget', hlt⟩ := hsmaller a page b ha hget hlink
      obtain ⟨pages, hwalk⟩ := ih _ (hm ▸ hlt) hb hget' rfl
      exact ⟨_, .next hget hlink hwalk⟩

/-- What holds at an address and is kept by every link holds of every page of a walk. -/
theorem Walk.forall_mem {I : α → Prop} {P : β → Prop} (h : Walk get link a pages) (ha : I a)
    (hpage : ∀ a page, I a → get a = some page → P page)
    (hlink : ∀ a page b, I a → get a = some page → link page = some b → I b) :
    ∀ page ∈ pages, P page := by
  induction h with
  | last hget _ =>
    intro page hmem
    obtain rfl := List.mem_singleton.1 hmem
    exact hpage _ _ ha hget
  | next hget hnext _ ih =>
    intro page hmem
    rcases List.mem_cons.1 hmem with rfl | hmem
    · exact hpage _ _ ha hget
    · exact ih (hlink _ _ _ ha hget hnext) page hmem

/-- **Pages of a list, put together, are the list**: each page at an offset shows up to `limit`
items from there, and links to the offset after them while the list goes on. -/
theorem Walk.flatMap_eq_drop {items : List γ} {limit : ℕ} {address : ℕ → α} {shown : β → List γ}
    (hpage : ∀ offset page, get (address offset) = some page →
      shown page = (items.drop offset).take limit ∧
        link page = if offset + limit < items.length then some (address (offset + limit)) else none)
    {offset : ℕ} (h : Walk get link (address offset) pages) :
    pages.flatMap shown = items.drop offset := by
  generalize ha : address offset = a at h
  induction h generalizing offset with
  | last hget hlink =>
    subst ha
    obtain ⟨hshown, hnone⟩ := hpage offset _ hget
    have hend : ¬offset + limit < items.length := fun hlt ↦ by
      rw [hlink, if_pos hlt] at hnone
      cases hnone
    rw [List.flatMap_singleton, hshown]
    exact List.take_of_length_le (by rw [List.length_drop]; omega)
  | next hget hlink _ ih =>
    subst ha
    obtain ⟨hshown, hnext⟩ := hpage offset _ hget
    rw [hlink] at hnext
    have hmore : offset + limit < items.length := by
      by_contra hend
      rw [if_neg hend] at hnext
      cases hnext
    rw [if_pos hmore] at hnext
    rw [List.flatMap_cons, hshown, ih (Option.some.inj hnext).symm, ← List.drop_drop]
    exact List.take_append_drop limit _

end Links
