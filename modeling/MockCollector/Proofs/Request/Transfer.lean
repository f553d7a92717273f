import MockCollector.Request.Transfer
/-!
# Which reports are streams

* `IsElement e cs`          `e` is one of the parts into which commas cut `cs`;
* `mem_splitOn_comma_iff`   so these are found, empty ones as well;
* `Padded core cs`          `cs` is `core` with blanks around it;
* `Header.trim_eq_iff`      which is what is taken off, if `core` holds no blank itself;
* `Header.IsCoding h`       `h` names transfer codings and can be read;
* `Header.Lists word h`     one of its elements is `word`;
* `streams_by_header_list`  a report is a stream if it comes to the place for streams or is sent in chunks, and
                            headers are one list, however it is cut and in whatever order.
-/

namespace MockCollector

/-! ## elements -/

variable {cs e core : List Char}

structure IsElement (e cs : List Char) : Prop where
  within : ∃ front back, cs = front ++ e ++ back ∧ (front = [] ∨ front.getLast? = some ',') ∧
    (back = [] ∨ back.head? = some ',')
  whole : ',' ∉ e

/-- what is behind a comma has its elements where it stands -/
theorem IsElement.behind_comma (h : IsElement e cs) (front : List Char) :
    IsElement e (front ++ ',' :: cs) := by
  obtain ⟨⟨before, back, rfl, starts, ends⟩, whole⟩ := h
  refine ⟨⟨front ++ ',' :: before, back, ?_, .inr ?_, ends⟩, whole⟩
  · simp only [List.append_assoc, List.cons_append]
  · rcases starts with rfl | comma
    · exact List.getLast?_concat
    · rw [List.getLast?_append, List.getLast?_cons, comma]
      rfl

theorem isElement_of_mem_splitOn (h : e ∈ cs.splitOn ',') : IsElement e cs := by
  -- the induction is on what is behind the first comma
  induction length : cs.length using Nat.strongRecOn generalizing cs with
  | ind n ih =>
    by_cases comma : ',' ∈ cs
    · obtain ⟨first, rest, rfl, whole⟩ := List.eq_append_cons_of_mem comma
      rw [List.splitOn_append_cons_self_of_not_mem whole, List.mem_cons] at h
      rcases h with rfl | later
      · exact ⟨⟨[], ',' :: rest, rfl, .inl rfl, .inr rfl⟩, whole⟩
      · have shorter : rest.length < n := by
          rw [← length, List.length_append, List.length_cons]
          omega
        exact (ih _ shorter later rfl).behind_comma first
    · rw [List.splitOn_eq_singleton comma, List.mem_singleton] at h
      subst h
      exact ⟨⟨[], [], (List.append_nil _).symm, .inl rfl, .inl rfl⟩, comma⟩

theorem mem_splitOn_comma_iff : e ∈ cs.splitOn ',' ↔ IsElement e cs := by
  refine ⟨isElement_of_mem_splitOn, ?_⟩
  rintro ⟨⟨front, back, rfl, starts, ends⟩, whole⟩
  have first : e ∈ (e ++ back).splitOn ',' := by
    rcases ends with rfl | comma
    · rw [List.append_nil, List.splitOn_eq_singleton whole]
      exact List.mem_singleton_self e
    · obtain ⟨back, rfl⟩ := List.head?_eq_some_iff.mp comma
      rw [List.splitOn_append_cons_self_of_not_mem whole]
      exact List.mem_cons_self
  rw [List.append_assoc]
  rcases starts with rfl | comma
  · exact first
  · obtain ⟨front, rfl⟩ := List.getLast?_eq_some_iff.mp comma
    rw [List.append_assoc, List.singleton_append, List.splitOn_append_cons_self]
    exact List.mem_append_right _ first

/-- where a comma stands, elements are those in front of it and those behind it -/
theorem isElement_append_comma {as bs : List Char} :
    IsElement e (as ++ ',' :: bs) ↔ IsElement e as ∨ IsElement e bs := by
  rw [← mem_splitOn_comma_iff, List.splitOn_append_cons_self, List.mem_append, mem_splitOn_comma_iff,
    mem_splitOn_comma_iff]

/-! ## blanks -/

structure Padded (core cs : List Char) : Prop where
  around : ∃ front back, cs = front ++ core ++ back ∧ (∀ c ∈ front, c = ' ' ∨ c = '\t') ∧
    ∀ c ∈ back, c = ' ' ∨ c = '\t'

theorem Header.isBlank_iff {c : Char} : isBlank c = true ↔ c = ' ' ∨ c = '\t' := decide_eq_true_iff

theorem dropWhile_blank {front : List Char} (blank : ∀ c ∈ front, Header.isBlank c = true)
    (solid : ∀ c ∈ core, ¬ Header.isBlank c = true) (some : core ≠ []) (back : List Char) :
    (front ++ (core ++ back)).dropWhile Header.isBlank = core ++ back := by
  obtain ⟨c, core, rfl⟩ := List.exists_cons_of_ne_nil some
  rw [List.dropWhile_append_of_pos blank, List.cons_append,
    List.dropWhile_cons_of_neg (solid c List.mem_cons_self)]

theorem Header.padded_trim (cs : List Char) : Padded (trim cs) cs := by
  have front := (List.takeWhile_append_dropWhile (p := isBlank) (l := cs)).symm
  have back := (List.takeWhile_append_dropWhile (p := isBlank)
    (l := (cs.dropWhile isBlank).reverse)).symm
  refine ⟨⟨cs.takeWhile isBlank, ((cs.dropWhile isBlank).reverse.takeWhile isBlank).reverse, ?_, ?_, ?_⟩⟩
  · rw [List.append_assoc, trim, ← List.reverse_append, ← back, List.reverse_reverse, ← front]
  · intro c hc
    exact isBlank_iff.mp (List.all_eq_true.mp List.all_takeWhile c hc)
  · intro c hc
    exact isBlank_iff.mp (List.all_eq_true.mp List.all_takeWhile c (List.mem_reverse.mp hc))

/-- what holds no blank is what is left of it when it is padded -/
theorem Header.trim_eq_iff (solid : ∀ c ∈ core, ¬ isBlank c = true) (some : core ≠ []) :
    trim cs = core ↔ Padded core cs := by
  constructor
  · rintro rfl
    exact padded_trim cs
  · rintro ⟨⟨front, back, rfl, before, behind⟩⟩
    have front_blank : ∀ c ∈ front, isBlank c = true := fun c hc => isBlank_iff.mpr (before c hc)
    have back_blank : ∀ c ∈ back.reverse, isBlank c = true := fun c hc =>
      isBlank_iff.mpr (behind c (List.mem_reverse.mp hc))
    have solid_reverse : ∀ c ∈ core.reverse, ¬ isBlank c = true := fun c hc =>
      solid c (List.mem_reverse.mp hc)
    have some_reverse : core.reverse ≠ [] := List.reverse_ne_nil_iff.mpr some
    have backwards := dropWhile_blank back_blank solid_reverse some_reverse []
    rw [List.append_nil] at backwards
    rw [trim, List.append_assoc, dropWhile_blank front_blank solid some, List.reverse_append, backwards,
      List.reverse_reverse]

/-! ## words in any case -/

def InAnyCase (word : String) (cs : List Char) : Prop := cs.map Char.toLower = word.toList

instance (word : String) (cs : List Char) : Decidable (InAnyCase word cs) :=
  inferInstanceAs (Decidable (_ = _))

theorem toList_toLower (s : String) : s.toLower.toList = s.toList.map Char.toLower := String.toList_map

theorem sameIgnoringCase_iff {s word : String} (lower : InAnyCase word word.toList) :
    sameIgnoringCase s word = true ↔ InAnyCase word s.toList := by
  rw [sameIgnoringCase, beq_iff_eq, ← String.toList_inj, toList_toLower, toList_toLower, lower]
  rfl

theorem inAnyCase_chunked : InAnyCase "chunked" "chunked".toList := by decide

theorem inAnyCase_transferEncoding : InAnyCase "transfer-encoding" "transfer-encoding".toList := by
  decide

/-- a blank is the same in any case, and a word of letters has none -/
theorem InAnyCase.solid {word : String} (h : InAnyCase word cs)
    (letters : ∀ c ∈ word.toList, c ≠ ' ' ∧ c ≠ '\t') : ∀ c ∈ cs, ¬ Header.isBlank c = true := by
  intro c hc blank
  have there : c.toLower ∈ word.toList := h ▸ List.mem_map_of_mem hc
  rcases Header.isBlank_iff.mp blank with rfl | rfl
  · exact (letters _ there).1 rfl
  · exact (letters _ there).2 rfl

/-! ## headers -/

namespace Header

/-- names transfer codings, and can be read -/
structure IsCoding (h : Header) : Prop where
  name : InAnyCase "transfer-encoding" h.name.toList
  visible : ∀ c ∈ h.value.toList, c = '\t' ∨ ' ' ≤ c ∧ c ≤ '~'

/-- one of the elements of its value is `word`, blanks apart and in any case -/
structure Lists (word : String) (h : Header) : Prop where
  listed : ∃ e core, IsElement e h.value.toList ∧ Padded core e ∧ InAnyCase word core

theorem visible?_eq_some_iff {value v : String} : visible? value = some v ↔
    (∀ c ∈ value.toList, c = '\t' ∨ ' ' ≤ c ∧ c ≤ '~') ∧ v = value := by
  rw [visible?, Option.ite_none_right_eq_some, List.all_eq_true, Option.some.injEq, eq_comm (a := v)]
  simp only [isVisible, decide_eq_true_iff]

end Header

theorem Headers.mem_items_iff {name coding : String} {hs : List Header} :
    coding ∈ Headers.items name hs ↔ ∃ h ∈ hs, sameIgnoringCase h.name name = true ∧
      (∀ c ∈ h.value.toList, c = '\t' ∨ ' ' ≤ c ∧ c ≤ '~') ∧
      ∃ e, IsElement e h.value.toList ∧ String.ofList (Header.trim e) = coding := by
  simp only [items, values, List.mem_flatMap, List.mem_filterMap, List.mem_map, List.mem_filter,
    Header.visible?_eq_some_iff, mem_splitOn_comma_iff]
  constructor
  · rintro ⟨_, ⟨_, ⟨h, ⟨there, named⟩, rfl⟩, visible, rfl⟩, e, element, rfl⟩
    exact ⟨h, there, named, visible, e, element, rfl⟩
  · rintro ⟨h, there, named, visible, e, element, rfl⟩
    exact ⟨_, ⟨_, ⟨h, ⟨there, named⟩, rfl⟩, visible, rfl⟩, e, element, rfl⟩

theorem isStreamed_iff {path : String} {headers : List Header} : isStreamed path headers = true ↔
    path = Endpoint.streamedReport.path ∨ ∃ h ∈ headers, h.IsCoding ∧ h.Lists "chunked" := by
  have letters : ∀ c ∈ "chunked".toList, c ≠ ' ' ∧ c ≠ '\t' := by simp
  rw [isStreamed, Bool.or_eq_true, beq_iff_eq, List.any_eq_true]
  refine or_congr_right ?_
  simp only [Headers.mem_items_iff, sameIgnoringCase_iff inAnyCase_chunked,
    sameIgnoringCase_iff inAnyCase_transferEncoding]
  constructor
  · rintro ⟨_, ⟨h, there, named, visible, e, element, rfl⟩, chunked⟩
    rw [String.toList_ofList] at chunked
    exact ⟨h, there, ⟨named, visible⟩, ⟨e, _, element, Header.padded_trim e, chunked⟩⟩
  · rintro ⟨h, there, ⟨named, visible⟩, ⟨e, core, element, padded, chunked⟩⟩
    have some : core ≠ [] := by
      rintro rfl
      cases chunked
    have trimmed := (Header.trim_eq_iff (chunked.solid letters) some).mpr padded
    refine ⟨String.ofList core, ⟨h, there, named, visible, e, element, congrArg _ trimmed⟩, ?_⟩
    rwa [String.toList_ofList]

/-! ## header lists -/

section
variable {path : String} {headers others rest : List Header} {g h : Header}

theorem isStreamed_mono (more : ∀ h ∈ headers, h ∈ others) (streamed : isStreamed path headers = true) :
    isStreamed path others = true := by
  rw [isStreamed_iff] at streamed ⊢
  exact streamed.imp_right fun ⟨h, there, chunked⟩ => ⟨h, more h there, chunked⟩

theorem isStreamed_perm (perm : headers.Perm others) :
    isStreamed path others = isStreamed path headers := by
  rw [Bool.eq_iff_iff]
  exact ⟨isStreamed_mono fun _ => perm.mem_iff.mpr, isStreamed_mono fun _ => perm.mem_iff.mp⟩

theorem isStreamed_cons_iff : isStreamed path (h :: rest) = true ↔
    (h.IsCoding ∧ h.Lists "chunked") ∨ isStreamed path rest = true := by
  rw [isStreamed_iff, isStreamed_iff, or_left_comm]
  simp only [List.mem_cons, or_and_right, exists_or, exists_eq_left]

/-- a header of another name says nothing of how a report is sent -/
theorem isStreamed_cons_other (other : ¬ InAnyCase "transfer-encoding" h.name.toList) :
    isStreamed path (h :: rest) = isStreamed path rest := by
  rw [Bool.eq_iff_iff, isStreamed_cons_iff, or_iff_right]
  exact fun coding => other coding.1.name

/-- the elements of two values are those of the one in which a comma stands between them -/
theorem Header.lists_joined {name word : String} :
    Lists word ⟨name, g.value ++ "," ++ h.value⟩ ↔ g.Lists word ∨ h.Lists word := by
  have joined : (g.value ++ "," ++ h.value).toList = g.value.toList ++ ',' :: h.value.toList := by
    rw [String.toList_append, String.toList_append, List.append_assoc]
    rfl
  constructor
  · rintro ⟨e, core, element, padded, found⟩
    rw [joined, isElement_append_comma] at element
    exact element.imp (fun element => ⟨e, core, element, padded, found⟩)
      fun element => ⟨e, core, element, padded, found⟩
  · rintro (⟨e, core, element, padded, found⟩ | ⟨e, core, element, padded, found⟩)
    · exact ⟨e, core, joined ▸ isElement_append_comma.mpr (.inl element), padded, found⟩
    · exact ⟨e, core, joined ▸ isElement_append_comma.mpr (.inr element), padded, found⟩

theorem Header.IsCoding.joined {name : String} (hg : g.IsCoding) (hh : h.IsCoding)
    (named : InAnyCase "transfer-encoding" name.toList) :
    IsCoding ⟨name, g.value ++ "," ++ h.value⟩ where
  name := named
  visible := by
    intro c hc
    rw [String.toList_append, String.toList_append, List.mem_append, List.mem_append] at hc
    rcases hc with (hc | hc) | hc
    · exact hg.visible c hc
    · cases List.mem_singleton.mp hc
      decide
    · exact hh.visible c hc

theorem isStreamed_joined {name : String} (hg : g.IsCoding) (hh : h.IsCoding)
    (named : InAnyCase "transfer-encoding" name.toList) :
    isStreamed path (⟨name, g.value ++ "," ++ h.value⟩ :: rest) = isStreamed path (g :: h :: rest) := by
  rw [Bool.eq_iff_iff, isStreamed_cons_iff, isStreamed_cons_iff, isStreamed_cons_iff, Header.lists_joined,
    and_iff_right (hg.joined hh named), and_iff_right hg, and_iff_right hh, or_assoc]

end

/-- **A report is a stream if it comes to the place for streams or is sent in chunks**, which a readable header
for transfer codings says if one of its elements does, blanks and case apart.  So the order of the headers
does not matter, nor do headers of other names; two such headers say what one of them says whose value is
theirs with a comma between them; and no header takes back what the others say. -/
theorem streams_by_header_list (path : String) (headers : List Header) :
    (isStreamed path headers = true ↔
      path = Endpoint.streamedReport.path ∨ ∃ h ∈ headers, h.IsCoding ∧ h.Lists "chunked") ∧
    (∀ others, headers.Perm others → isStreamed path others = isStreamed path headers) ∧
    (∀ h front back, headers = front ++ back → ¬ InAnyCase "transfer-encoding" h.name.toList →
      isStreamed path (front ++ h :: back) = isStreamed path headers) ∧
    (∀ (g h : Header) (rest : List Header), headers.Perm (g :: h :: rest) → g.IsCoding → h.IsCoding →
      ∀ (name : String) (others : List Header), InAnyCase "transfer-encoding" name.toList →
        others.Perm (⟨name, g.value ++ "," ++ h.value⟩ :: rest) →
        isStreamed path others = isStreamed path headers) ∧
    ∀ h front back, headers = front ++ back → isStreamed path headers = true →
      isStreamed path (front ++ h :: back) = true := by
  refine ⟨isStreamed_iff, ?_, ?_, ?_, ?_⟩
  · intro others perm
    exact isStreamed_perm perm
  · rintro h front back rfl other
    rw [isStreamed_perm List.perm_middle.symm, isStreamed_cons_other other]
  · intro g h rest perm hg hh name others named otherPerm
    rw [isStreamed_perm otherPerm.symm, isStreamed_joined hg hh named, isStreamed_perm perm]
  · rintro h front back rfl streamed
    refine isStreamed_mono (fun g there => ?_) streamed
    exact (List.sublist_cons_self h back).append_left front |>.subset there

def gzipHeader : Header := ⟨"Transfer-Encoding", "gzip,"⟩

def chunkedHeader : Header := ⟨"TRANSFER-ENCODING", "deflate,\t Chunked "⟩

def hostHeader : Header := ⟨"Host", "chunked"⟩

/-- an element of it is `chunked`, but it cannot be read -/
def garbledHeader : Header := ⟨"transfer-encoding", "é,chunked"⟩

theorem streams_by_header_list_of_two_codings :
    gzipHeader.IsCoding ∧ chunkedHeader.IsCoding ∧
      ¬ InAnyCase "transfer-encoding" hostHeader.name.toList ∧
      isStreamed "/api/v2/reports" [gzipHeader, chunkedHeader] = true ∧
      isStreamed "/api/v2/reports" [chunkedHeader, gzipHeader] = true ∧
      isStreamed "/api/v2/reports" [gzipHeader, hostHeader, chunkedHeader] = true ∧
      isStreamed "/api/v2/reports" [⟨"transfer-encoding", "gzip,,deflate,\t Chunked "⟩] = true ∧
      isStreamed "/api/v2/reports" [garbledHeader, gzipHeader, chunkedHeader] = true ∧
      isStreamed "/api/v2/reports" [garbledHeader, hostHeader] = false := by
  have gzip : gzipHeader.IsCoding := ⟨by decide, by simp [gzipHeader]⟩
  have chunked : chunkedHeader.IsCoding := ⟨by decide, by simp [chunkedHeader]⟩
  have other : ¬ InAnyCase "transfer-encoding" hostHeader.name.toList := by decide
  have element : IsElement "\t Chunked ".toList chunkedHeader.value.toList :=
    ⟨⟨"deflate,".toList, [], by decide, .inr (by decide), .inl rfl⟩, by decide⟩
  have lists : chunkedHeader.Lists "chunked" :=
    ⟨_, "Chunked".toList, element, ⟨"\t ".toList, " ".toList, by decide, by simp, by simp⟩, by decide⟩
  obtain ⟨two, perm, others, joined, more⟩ :=
    streams_by_header_list "/api/v2/reports" [gzipHeader, chunkedHeader]
  have streamed := two.mpr (.inr ⟨chunkedHeader, by decide, chunked, lists⟩)
  have value : gzipHeader.value ++ "," ++ chunkedHeader.value = "gzip,,deflate,\t Chunked " := by decide
  refine ⟨gzip, chunked, other, streamed, ?_, ?_, ?_, ?_, ?_⟩
  · rw [perm _ (.swap _ _ _), streamed]
  · exact (others hostHeader [gzipHeader] [chunkedHeader] rfl other).trans streamed
  · rw [← value, joined gzipHeader chunkedHeader [] (.refl _) gzip chunked _ _ (by decide) (.refl _), streamed]
  · exact more garbledHeader [] _ rfl streamed
  · rw [Bool.eq_false_iff, ne_eq, (streams_by_header_list _ _).1]
    rintro (place | ⟨h, there, coding, -⟩)
    · exact absurd place (by decide)
    · rw [List.mem_cons, List.mem_singleton] at there
      rcases there with rfl | rfl
      · exact absurd (coding.visible 'é' (by decide)) (by decide)
      · exact other coding.name

end MockCollector
