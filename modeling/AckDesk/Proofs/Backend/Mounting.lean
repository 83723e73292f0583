import AckDesk.Proofs.Backend.Items
import AckDesk.Proofs.Url.Ending

/-!
# Accepted sites

A site is accepted if the text of its collection is a URL, so that what cannot be used is found before the first record
is posted. The path of the interface is put at the end of the base address as a text, though, and what it becomes there
depends on the base. Behind a question mark or a number sign it belongs to no path, behind slashes alone its first
segment is a host, and behind a scheme and a text without a slash there are no segments, and no items either. An
accepted site can be used exactly if its base has room for the path (`usable_iff_hasRoom`).
-/

namespace AckDesk.Backend.Site

open Url (Segments IsPlain IsName isMark kept readable)

/-- The segments of the interface. -/
def apiSegments (s : Site) : Segments := Text.pieces (· == '/') (s.apiPath.toList.dropWhile (· == '/'))

/-- What can be done with a site that has the collection `u`. -/
structure Usable (s : Site) (u : Url) : Prop where
  /-- Records are posted to the path of the interface. -/
  path : u.path.EndsIn s.apiSegments
  /-- Each key has an item. -/
  items : ∀ key, ∃ v, s.itemUrl key = .ok v

/-- The base address without slashes at its end. -/
def stem (s : Site) : List Char := (s.baseUrl.toList.reverse.dropWhile (· == '/')).reverse

/-- The base address has room for the path of the interface. Behind a mark there is none, so a base that has one must
itself be a URL with the path, in front of the mark. -/
def hasRoom (s : Site) : Bool :=
  if s.baseUrl.toList.any isMark then
    match Url.parse s.baseUrl with
    | .ok v => v.path.EndsIn s.apiSegments
    | .error _ => false
  else (Url.cutScheme? (kept (s.stem.dropWhile (· ≤ ' ')))).any fun (scheme, rest) => Url.hasRoom scheme rest

section

variable {s : Site} {u : Url}

/-- Where the path has segments, each key has an item. -/
theorem usable_iff_endsIn (hu : s.collectionUrl = .ok u) : s.Usable u ↔ u.path.EndsIn s.apiSegments := by
  refine ⟨Usable.path, fun h => ⟨h, fun key => ?_⟩⟩
  unfold itemUrl
  rw [hu]
  cases hp : u.path with
  | plain text =>
    rw [hp] at h
    exact h.elim
  | segments ss =>
    simp only [bind, Except.bind, Url.join?, hp]
    exact ⟨_, rfl⟩

/-! ## The usual path of the interface -/

/-- The segments of the usual path. -/
def usualSegments : Segments := ["api".toList, "test_acknowledgments".toList]

theorem apiSegments_eq (hapi : s.apiPath = "/api/test_acknowledgments") : s.apiSegments = usualSegments := by
  rw [apiSegments, hapi]
  decide

theorem isPlain_usual : ∀ a ∈ usualSegments, IsPlain a := by decide +kernel

theorem isName_api : IsName "api".toList := by decide +kernel

theorem any_isMark_usual : usualSegments.text.any isMark = false := by decide +kernel

/-- The collection's text is the base without its closing slash, and the usual path behind it. -/
theorem toList_collectionText (hapi : s.apiPath = "/api/test_acknowledgments") :
    s.collectionText.toList = s.stem ++ usualSegments.text := by
  rw [collectionText, hapi, String.toList_ofList]
  rfl

/-- The stem of a base has only characters of the base. -/
theorem mem_of_mem_stem {c : Char} (h : c ∈ s.stem) : c ∈ s.baseUrl.toList :=
  List.mem_reverse.1 ((List.dropWhile_sublist _).subset (List.mem_reverse.1 h))

/-- The path stays as it is at the end of a text. -/
theorem readable_append_usual (cs : List Char) :
    readable (cs ++ usualSegments.text) = kept (cs.dropWhile (· ≤ ' ')) ++ usualSegments.text := by
  have htext : usualSegments.text = '/' :: "api/test_acknowledgments".toList := by decide
  rw [htext, readable, Url.trimControls_append_cons (by decide), kept, List.filter_append]
  rfl

/-- Behind a base without marks the path is read as part of it. -/
theorem endsIn_iff_of_not_isMark (hapi : s.apiPath = "/api/test_acknowledgments") (hu : s.collectionUrl = .ok u)
    (hmark : ∀ c ∈ s.baseUrl.toList, isMark c = false) :
    u.path.EndsIn usualSegments ↔ ((Url.cutScheme? (kept (s.stem.dropWhile (· ≤ ' ')))).any
      fun (scheme, rest) => Url.hasRoom scheme rest) = true := by
  have htext : ∀ c ∈ s.collectionText.toList, isMark c = false := by
    intro c hc
    rw [toList_collectionText hapi] at hc
    rcases List.mem_append.1 hc with hc | hc
    · exact hmark c (mem_of_mem_stem hc)
    · simpa using List.any_eq_false.1 any_isMark_usual c hc
  have hhead : ∀ c ∈ usualSegments.text.head?,
      (c.isAlphanum || ['+', '-', '.'].contains c) = false ∧ c ≠ ':' := by
    intro c hc
    obtain rfl := Url.eq_of_mem_head?_text hc
    decide
  obtain ⟨hplain, hplains⟩ := List.forall_mem_cons.1 isPlain_usual
  obtain ⟨hfront, hend⟩ := Url.front_of_not_isMark htext
  have hread := Url.readFront_of_parse (parse_of_collectionUrl hu)
  rw [hend, hfront, toList_collectionText hapi, readable_append_usual] at hread
  unfold Url.readFront at hread
  rw [Url.cutScheme?_append hhead] at hread
  cases hscheme : Url.cutScheme? (kept (s.stem.dropWhile (· ≤ ' '))) with
  | none =>
    rw [hscheme] at hread
    cases hread
  | some x =>
    obtain ⟨scheme, rest⟩ := x
    rw [hscheme] at hread
    obtain ⟨⟨au, p⟩, hbody, hread⟩ := Url.exists_of_bind_eq_ok hread
    have hp : p = u.path := (Prod.mk.inj (Prod.mk.inj (Except.ok.inj hread)).2).2
    subst hp
    exact Url.endsIn_readBody_iff hplain isName_api ⟨List.cons_ne_nil _ _, hplains⟩ hbody

/-- The text of the collection is that of the base up to the first mark, which no slash behind it takes away. -/
theorem exists_eq_append_of_isMark (hmark : s.baseUrl.toList.any isMark = true) :
    ∃ cs c ds ds', s.baseUrl.toList = cs ++ c :: ds ∧ s.collectionText.toList = cs ++ c :: ds' ∧
      (∀ d ∈ cs, isMark d = false) ∧ isMark c = true := by
  obtain ⟨c, hfind⟩ : ∃ c, s.baseUrl.toList.find? isMark = some c :=
    Option.isSome_iff_exists.1 (by simpa [List.find?_isSome] using hmark)
  obtain ⟨hc, cs, ds, hbase, hcs⟩ := List.find?_eq_some_iff_append.1 hfind
  have hhead : ∀ d ∈ (c :: cs.reverse).head?, (d == '/') = false := by
    intro d hd
    obtain rfl := Option.some.inj hd
    rcases Url.isMark_cases hc with rfl | rfl <;> decide
  have hstem : s.stem = cs ++ c :: (ds.reverse.dropWhile (· == '/')).reverse := by
    rw [stem, hbase, List.reverse_append, List.reverse_cons, List.append_assoc, List.singleton_append,
      Url.dropWhile_append_of_head hhead, List.reverse_append, List.reverse_cons, List.reverse_reverse,
      List.append_assoc, List.singleton_append]
  refine ⟨cs, c, ds, (ds.reverse.dropWhile (· == '/')).reverse ++ '/' :: s.apiPath.toList.dropWhile (· == '/'),
    hbase, ?_, fun d hd => by simpa using hcs d hd, hc⟩
  rw [collectionText, String.toList_ofList]
  show s.stem ++ _ = _
  rw [hstem, List.append_assoc, List.cons_append]

/-- Behind a mark nothing belongs to the path: it is that of the base. -/
theorem exists_parse_of_isMark (hmark : s.baseUrl.toList.any isMark = true) (hu : s.collectionUrl = .ok u) :
    ∃ v, Url.parse s.baseUrl = .ok v ∧ v.path = u.path := by
  obtain ⟨cs, c, ds, ds', hbase, htext, hcs, hc⟩ := exists_eq_append_of_isMark hmark
  obtain ⟨hfront, hend⟩ := Url.front_append_cons hcs hc ds
  obtain ⟨hfront', hend'⟩ := Url.front_append_cons hcs hc ds'
  refine Url.exists_of_parse (parse_of_collectionUrl hu) ?_ ?_
  · rw [htext, hbase, hfront, hfront']
  · rw [htext, hbase, hend, hend']

/-- **An accepted site can be used** exactly if its base has room for the path of the interface. -/
theorem usable_iff_hasRoom (hapi : s.apiPath = "/api/test_acknowledgments") (hu : s.collectionUrl = .ok u) :
    s.Usable u ↔ s.hasRoom = true := by
  rw [usable_iff_endsIn hu, hasRoom]
  cases hmark : s.baseUrl.toList.any isMark with
  | true =>
    obtain ⟨v, hv, hpath⟩ := exists_parse_of_isMark hmark hu
    rw [hv, ← hpath]
    simp
  | false =>
    have hnot : ∀ c ∈ s.baseUrl.toList, isMark c = false := by simpa using hmark
    rw [apiSegments_eq hapi]
    exact endsIn_iff_of_not_isMark hapi hu hnot

/-- A site behind the scheme of letters is accepted, and none of its keys has an item. -/
def letters : Site := { baseUrl := "mailto:a" }

def lettersUrl : Url where
  scheme := "mailto".toList
  authority := none
  path := .plain "a/api/test_acknowledgments".toList
  query := none
  fragment := none

theorem not_usable_letters : letters.collectionUrl = .ok lettersUrl ∧ ¬letters.Usable lettersUrl := by
  have hu : letters.collectionUrl = .ok lettersUrl := by decide +kernel
  refine ⟨hu, fun h => ?_⟩
  have hroom : letters.hasRoom = true := (usable_iff_hasRoom rfl hu).1 h
  revert hroom
  decide +kernel

end

end AckDesk.Backend.Site
