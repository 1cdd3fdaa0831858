import Mathlib.Data.Multiset.MapFold
import Mathlib.Data.Multiset.Dedup

/-!
# A bounded archive

Items are published with the next key of a counter and may be dropped at any time, for any reason.
Whatever is dropped, no key is given twice and every item in the archive is older than the counter.
-/

/-- The items an archive still holds, and the key it gives next. -/
structure Archive (α : Type) (key : α → Nat) where
  live : Multiset α
  next : Nat
  distinct : (live.map key).Nodup
  below : ∀ x ∈ live, key x < next

namespace Archive

variable {α : Type} {key : α → Nat}

/-- One step: something is published, while other items may be dropped, or items are dropped. -/
inductive Step : Archive α key → Option α → Archive α key → Prop where
  | publish {a b : Archive α key} {x : α} {rest : Multiset α} (hkey : key x = a.next)
      (hnext : b.next = a.next + 1) (hlive : b.live = x ::ₘ rest) (hrest : rest ≤ a.live) :
      Step a (some x) b
  | drop {a b : Archive α key} (hnext : b.next = a.next) (hlive : b.live ≤ a.live) : Step a none b

theorem distinct_publish (a : Archive α key) {x : α} {rest : Multiset α} (hkey : key x = a.next)
    (hrest : rest ≤ a.live) : ((x ::ₘ rest).map key).Nodup := by
  rw [Multiset.map_cons, Multiset.nodup_cons]
  refine ⟨?_, Multiset.nodup_of_le (Multiset.map_le_map hrest) a.distinct⟩
  intro hmem
  obtain ⟨y, hy, hyx⟩ := Multiset.mem_map.mp hmem
  have := a.below y (Multiset.mem_of_le hrest hy)
  omega

theorem below_publish (a : Archive α key) {x : α} {rest : Multiset α} (hkey : key x = a.next)
    (hrest : rest ≤ a.live) : ∀ y ∈ x ::ₘ rest, key y < a.next + 1 := by
  intro y hy
  rcases Multiset.mem_cons.mp hy with rfl | hy
  · omega
  · have := a.below y (Multiset.mem_of_le hrest hy)
    omega

theorem Step.next_le {a b : Archive α key} {sent : Option α} (h : Step a sent b) :
    a.next ≤ b.next := by
  cases h with
  | publish _ hnext => omega
  | drop hnext => omega

theorem Step.sent_eq {a b : Archive α key} {x : α} (h : Step a (some x) b) :
    key x = a.next ∧ b.next = a.next + 1 ∧ x ∈ b.live := by
  cases h with
  | publish hkey hnext hlive => exact ⟨hkey, hnext, by rw [hlive]; exact Multiset.mem_cons_self _ _⟩

end Archive
