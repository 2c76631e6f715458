import Mathlib.Data.List.Basic
import Mathlib.Data.List.Induction

namespace Durable
set_option autoImplicit true

section Chain
variable {β δ : Type} (digest : β → δ) (previous : β → Option δ)

/-- Every block names the digest of the one before it; the first names `link`. -/
def Linked : Option δ → List β → Prop
  | _, [] => True
  | link, b :: rest => previous b = link ∧ Linked (some (digest b)) rest

/-- What a block that comes after these names. -/
def headLink : Option δ → List β → Option δ
  | link, [] => link
  | _, b :: rest => headLink (some (digest b)) rest

variable {digest previous}

theorem headLink_append (bs cs : List β) :
    headLink digest link (bs ++ cs) = headLink digest (headLink digest link bs) cs := by
  induction bs generalizing link with
  | nil => rfl
  | cons b bs ih => exact ih

theorem linked_append (bs cs : List β) : Linked digest previous link (bs ++ cs) ↔
    Linked digest previous link bs ∧ Linked digest previous (headLink digest link bs) cs := by
  induction bs generalizing link with
  | nil => exact ⟨fun h => ⟨trivial, h⟩, fun h => h.2⟩
  | cons b bs ih => simp only [List.cons_append, Linked, headLink, ih, and_assoc]

/-- A block that names the digest of the last one continues the chain. -/
theorem Linked.concat (h : Linked digest previous link bs)
    (hb : previous b = headLink digest link bs) : Linked digest previous link (bs ++ [b]) :=
  (linked_append bs [b]).mpr ⟨h, hb, trivial⟩

theorem headLink_concat (bs : List β) (b : β) :
    headLink digest link (bs ++ [b]) = some (digest b) := by
  rw [headLink_append]
  rfl

/-- The digest of the last block determines the chain, if no two of its blocks collide. -/
theorem Linked.unique {bs cs : List β} (hb : Linked digest previous none bs)
    (hc : Linked digest previous none cs) (hhead : headLink digest none bs = headLink digest none cs)
    (hinj : ∀ b ∈ bs, ∀ c ∈ cs, digest b = digest c → b = c) : bs = cs := by
  induction bs using List.reverseRecOn generalizing cs with
  | nil =>
    rcases List.eq_nil_or_concat' cs with rfl | ⟨cs, c, rfl⟩
    · rfl
    · rw [headLink_concat] at hhead
      cases hhead
  | append_singleton bs b ih =>
    rcases List.eq_nil_or_concat' cs with rfl | ⟨cs, c, rfl⟩
    · rw [headLink_concat] at hhead
      cases hhead
    · obtain ⟨hbs, hlast, -⟩ := (linked_append bs [b]).mp hb
      obtain ⟨hcs, hlast', -⟩ := (linked_append cs [c]).mp hc
      rw [headLink_concat, headLink_concat, Option.some.injEq] at hhead
      obtain rfl := hinj b (by simp) c (by simp) hhead
      have hrest : bs = cs := ih hbs hcs (hlast.symm.trans hlast') fun b' hb' c' hc' =>
        hinj b' (List.mem_append_left _ hb') c' (List.mem_append_left _ hc')
      rw [hrest]

end Chain

end Durable
