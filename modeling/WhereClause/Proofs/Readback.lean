import WhereClause.Proofs.Growth
import WhereClause.Proofs.Storage
import WhereClause.Proofs.TooDeep

/-!
# Reading Printed Filters Back

When a filter that a document was built into can be read from what is printed
for it.

A printed filter is nested more deeply than its document. An object of a
document can become a group around a connective, and these two have five arrays
and objects between them: a tag and a list for the group, and a tag, a record
and a list for the connective. Reading stops at 127 of them. So the limit on
how deep filters may be nested in a document, which is 32 unless it is set, is
no guarantee that what is printed can be read again. A nesting of 25 is one,
and `tower` is a document with a nesting of 26 for which it fails.

How deep the printed filter is decides the matter. If there is room for it, it
is read back as it was, and if not, nothing is read. That the reader skips
parts no one asks for is no way out, because a printed filter has no such part.

## Main definitions

* `margin`: What an enclosing column can add to the depth.
* `Filter.Exact`: A filter without doubles, and so with an exact text.
* `tower`: Documents in which every level costs as much as it can.

## Theorems

* `grows_depth`, `depth_ofDocument`: How deep the filter of a document is at
  most.
* `exact_ofDocument`: A document without doubles is built to an exact filter.
* `wanted_encode`: No part of an encoded filter is skipped.
* `decodeText?_of_laid`, `decodeText?_printed`: What is read from a text of an
  exact filter.
* `printed_is_read_back`: What is read from the two texts of a built filter.
* `tower_is_not_read_back`: Not all documents within the limit are printed so
  that they can be read back.
-/

namespace WhereClause

open Json

/-! ## Depth -/

theorem Json.depth_tagged (tag : String) (contents : Json) :
    (Json.tagged tag contents).depth = contents.depth + 1 := by
  rw [tagged, depth, entriesDepth, entriesDepth, Nat.max_zero]

namespace Literal

theorem encodeItems_eq_map (items : List Literal) : encodeItems items = items.map encode := by
  induction items with
  | nil => rfl
  | cons item rest ih => rw [encodeItems, ih, List.map_cons]

/-- The literal of a single value is an object at most. -/
theorem depth_encode_scalar (value : Literal) (h : value.isList = false) :
    value.encode.depth ≤ 1 := by
  cases value with
  | list items => exact Bool.noConfusion h
  | float x =>
      rw [encode, depth_tagged]
      -- A double that is not finite is encoded as null, which is not deep at all.
      cases Number.ofFloat? x <;> exact Nat.le_refl 1
  | null => exact Nat.zero_le 1
  | _ => exact Nat.le_refl 1

/-- A list of single values has three: the tag, the list, and the tag of an
    item. -/
theorem depth_encode_flat (items : List Literal) (flat : ∀ item ∈ items, item.isList = false) :
    (Literal.list items).encode.depth ≤ 3 := by
  rw [encode, depth_tagged, depth, Nat.add_le_add_iff_right, Nat.add_le_add_iff_right,
    itemsDepth_le_iff, encodeItems_eq_map]
  intro encoded hencoded
  rcases List.mem_map.1 hencoded with ⟨item, hitem, rfl⟩
  exact depth_encode_scalar item (flat item hitem)

end Literal

namespace Filter

theorem encodeAll_eq_map (children : List Filter) : encodeAll children = children.map encode := by
  induction children with
  | nil => rfl
  | cons child rest ih => rw [encodeAll, ih, List.map_cons]

theorem depth_encode_compare (column : String) (op : Comparison) (operand : Literal) :
    (Filter.compare column op operand).encode.depth = operand.encode.depth + 2 := by
  simp only [encode, depth_tagged, depth, entriesDepth, Comparison.encode, Nat.zero_max,
    Nat.max_zero]

theorem depth_encode_group (children : List Filter) :
    (Filter.group children).encode.depth = itemsDepth (encodeAll children) + 2 := by
  rw [encode, depth_tagged, depth]

theorem depth_encode_logical (op : Connective) (children : List Filter) :
    (Filter.logical op children).encode.depth = itemsDepth (encodeAll children) + 3 := by
  simp only [encode, depth_tagged, depth, entriesDepth, Connective.encode, Nat.zero_max,
    Nat.max_zero]

/-- A bound on all children bounds the list of them. -/
theorem itemsDepth_encodeAll_le {children : List Filter} {bound : Nat}
    (h : ∀ child ∈ children, child.encode.depth ≤ bound) :
    itemsDepth (encodeAll children) ≤ bound := by
  rw [itemsDepth_le_iff, encodeAll_eq_map]
  intro encoded hencoded
  rcases List.mem_map.1 hencoded with ⟨child, hchild, rfl⟩
  exact h child hchild

/-- What set operators add below a column: their operand is two deeper than
    other operands. -/
def margin (field : Option String) : Nat :=
  if field.isSome then 2 else 0

/-- Every level costs two for a group and three for a connective, and leaves
    are three deep, or two more below a column. -/
theorem grows_depth : Grows (fun filter => filter.encode.depth) 2 3 3 2 where
  room := by decide
  grouped conditions bound h := by
    have hlist := itemsDepth_encodeAll_le h
    rw [depth_encode_group]
    omega
  combined op children bound h := by
    have hlist := itemsDepth_encodeAll_le h
    rw [depth_encode_logical]
    omega
  null _ := Nat.le_succ 2
  equal column value single := by
    have hoperand := Literal.depth_encode_scalar _ (isList_ofJson value single)
    rw [depth_encode_compare]
    omega
  compared column op value h := by
    -- Only a set operator has a list for an operand, and its items are single.
    have hoperand : (Literal.ofJson value).encode.depth ≤ 3 := by
      cases h with
      | comparison _ _ _ ordinary single =>
          have hscalar := Literal.depth_encode_scalar _ (isList_ofJson value single)
          omega
      | membership _ _ items set inhabited flat =>
          refine Literal.depth_encode_flat (Literal.ofItems items) fun operand hoperand => ?_
          rw [Literal.ofItems_eq_map] at hoperand
          rcases List.mem_map.1 hoperand with ⟨item, hitem, rfl⟩
          exact isList_ofJson item (flat item hitem)
    rw [depth_encode_compare]
    omega
  matched _ _ _ := Nat.le_add_right 2 3

/-- Each filter in a document makes the encoded filter at most five deeper:
    two for a group, and three for a connective in it or for a comparison. -/
theorem depth_ofDocument {field : Option String} {document : Json}
    (h : IsDocument field document) :
    (ofDocument field document).encode.depth ≤ 5 * nesting document + margin field := by
  have hbound := grows_depth.ofDocument_le h
  -- What a column adds in the general bound is the margin here.
  have hmargin : excess 2 field = margin field := rfl
  omega

/-! ## Filters without doubles -/

/-- Filters without doubles: all numbers in the encoded form are whole, and
    null does not stand for one. -/
structure Exact (filter : Filter) : Prop where
  whole : filter.encode.isWhole = true
  finite : filter.isFinite = true

end Filter

theorem Json.areWhole_iff (items : List Json) :
    areWhole items = true ↔ ∀ item ∈ items, item.isWhole = true := by
  induction items with
  | nil => simp only [areWhole, List.not_mem_nil, false_imp_iff, implies_true]
  | cons item rest ih => rw [areWhole, Bool.and_eq_true, ih, List.forall_mem_cons]

theorem Json.entriesWhole_iff (entries : List (String × Json)) :
    entriesWhole entries = true ↔ ∀ entry ∈ entries, entry.2.isWhole = true := by
  induction entries with
  | nil => simp only [entriesWhole, List.not_mem_nil, false_imp_iff, implies_true]
  | cons entry rest ih => rw [entriesWhole, Bool.and_eq_true, ih, List.forall_mem_cons]

namespace Literal

mutual

/-- Without doubles in a value there are none in its literal. -/
theorem exact_ofJson : (value : Json) → value.isWhole = true →
    (Literal.ofJson value).encode.isWhole = true ∧ (Literal.ofJson value).isFinite = true
  | .null, _ => ⟨rfl, rfl⟩
  | .bool _, _ => ⟨rfl, rfl⟩
  | .number (.whole n bounds), _ => by
      rw [ofJson, ofNumber]
      split <;> exact ⟨rfl, rfl⟩
  | .number (.real _ _), h => Bool.noConfusion h
  | .text _, _ => ⟨rfl, rfl⟩
  | .array items, h => by
      have hitems := exact_ofItems items h
      rw [ofJson, encode, isFinite]
      refine ⟨?_, hitems.2⟩
      rw [tagged, isWhole, entriesWhole, entriesWhole, Bool.and_true, isWhole]
      exact hitems.1
  | .object _, _ => ⟨rfl, rfl⟩

theorem exact_ofItems : (items : List Json) → areWhole items = true →
    areWhole (encodeItems (ofItems items)) = true ∧ areFinite (ofItems items) = true
  | [], _ => ⟨rfl, rfl⟩
  | item :: rest, h => by
      rw [areWhole, Bool.and_eq_true] at h
      -- An item and the items behind it are judged apart.
      have hitem := exact_ofJson item h.1
      have hrest := exact_ofItems rest h.2
      rw [ofItems, encodeItems, areWhole, areFinite]
      exact ⟨Bool.and_eq_true_iff.2 ⟨hitem.1, hrest.1⟩, Bool.and_eq_true_iff.2 ⟨hitem.2, hrest.2⟩⟩

end

end Literal

namespace Filter

theorem areFinite_iff (children : List Filter) :
    areFinite children = true ↔ ∀ child ∈ children, child.isFinite = true := by
  induction children with
  | nil => simp only [areFinite, List.not_mem_nil, false_imp_iff, implies_true]
  | cons child rest ih => rw [areFinite, Bool.and_eq_true, ih, List.forall_mem_cons]

theorem areWhole_encodeAll {children : List Filter} (h : ∀ child ∈ children, child.Exact) :
    areWhole (encodeAll children) = true := by
  rw [areWhole_iff, encodeAll_eq_map]
  intro encoded hencoded
  rcases List.mem_map.1 hencoded with ⟨child, hchild, rfl⟩
  exact (h child hchild).whole

theorem exact_compare (column : String) (op : Comparison) {value : Json}
    (h : value.isWhole = true) : (Filter.compare column op (.ofJson value)).Exact := by
  have hoperand := Literal.exact_ofJson value h
  refine ⟨?_, hoperand.2⟩
  simp only [encode, tagged, isWhole, entriesWhole, Comparison.encode, hoperand.1, Bool.and_self]

theorem exact_logical (op : Connective) {children : List Filter}
    (h : ∀ child ∈ children, child.Exact) : (Filter.logical op children).Exact := by
  refine ⟨?_, (areFinite_iff children).2 fun child hchild => (h child hchild).finite⟩
  simp only [encode, tagged, isWhole, entriesWhole, Connective.encode, areWhole_encodeAll h,
    Bool.and_self]

theorem exact_group {children : List Filter} (h : ∀ child ∈ children, child.Exact) :
    (Filter.group children).Exact := by
  refine ⟨?_, (areFinite_iff children).2 fun child hchild => (h child hchild).finite⟩
  simp only [encode, tagged, isWhole, entriesWhole, areWhole_encodeAll h, Bool.and_self]

theorem exact_ofConditions {conditions : List Filter}
    (h : ∀ condition ∈ conditions, condition.Exact) : (ofConditions conditions).Exact := by
  rcases conditions with _ | ⟨first, _ | ⟨second, rest⟩⟩
  · exact exact_group h
  · exact h first List.mem_cons_self
  · exact exact_group h

mutual

/-- Without doubles in a document there are none in its filter. -/
theorem exact_ofDocument {field : Option String} {document : Json}
    (h : document.isWhole = true) :
    IsDocument field document → (ofDocument field document).Exact
  | .object field entries inhabited flags known conditions => by
      rw [ofDocument]
      refine exact_ofConditions fun condition hcondition => ?_
      rcases (mem_ofEntries_iff ..).1 hcondition with ⟨entry, hmem, _, rfl⟩
      exact exact_ofKey _ ((entriesWhole_iff entries).1 h entry hmem) (conditions entry hmem)

/-- So there are none in the filter of a condition. -/
theorem exact_ofKey {field : Option String} {key : Key} {value : Json} (flags : Option Json)
    (h : value.isWhole = true) :
    IsCondition field key value → (ofKey field flags key value).Exact
  | .scalar field name value single closed => by
      -- A null is a test, and any other single value is compared.
      rcases ofKey_single field flags name single closed with hleaf | hleaf
      · rw [hleaf]
        exact ⟨rfl, rfl⟩
      · rw [hleaf]
        exact exact_compare name .eq h
  | .nested field name entries document => exact_ofDocument h document
  | .comparison column op value ordinary single => by
      rw [ofKey_comparison]
      exact exact_compare _ op h
  | .membership column op items set inhabited flat => by
      rw [ofKey_comparison]
      exact exact_compare _ op h
  | .regex column pattern => ⟨rfl, rfl⟩
  | .options field value => by
      -- Options leave no condition of their own.
      have hleaf : ofKey field flags .options value = .group [] := by
        cases value <;> rfl
      rw [hleaf]
      exact ⟨rfl, rfl⟩
  | .logical field op items inhabited documents => by
      rw [ofKey, ofItems_eq_map]
      refine exact_logical op fun child hchild => ?_
      rcases List.mem_map.1 hchild with ⟨item, hitem, rfl⟩
      exact exact_ofDocument ((areWhole_iff items).1 h item hitem) (documents item hitem)

end

/-! ## Texts -/

mutual

/-- A decoder of filters asks for every part of an encoded filter. -/
theorem wanted_encode : (filter : Filter) → Wanted skips filter.encode
  | .compare _ _ operand =>
      ⟨rfl, ⟨rfl, rfl, rfl, wanted_of_never (fun _ => rfl) operand.encode, trivial⟩, trivial⟩
  | .isNull _ => ⟨rfl, ⟨rfl, rfl, trivial⟩, trivial⟩
  | .regex _ _ _ => ⟨rfl, ⟨rfl, rfl, rfl, rfl, trivial⟩, trivial⟩
  | .logical _ children => ⟨rfl, ⟨rfl, rfl, ⟨rfl, wanted_encodeAll children⟩, trivial⟩, trivial⟩
  | .group children => ⟨rfl, ⟨rfl, wanted_encodeAll children⟩, trivial⟩

theorem wanted_encodeAll : (children : List Filter) → ItemsWanted skips (encodeAll children)
  | [] => trivial
  | child :: rest => ⟨wanted_encode child, wanted_encodeAll rest⟩

end

/-- A text of a filter without doubles is read as that filter if there is room
    for it, and as nothing if not. -/
theorem decodeText?_of_laid {filter : Filter} (exact : filter.Exact) {text : List Char}
    (h : Laid text filter.encode) :
    decodeText? (String.ofList text) =
      if filter.encode.depth ≤ Reader.depthLimit then some filter else none := by
  by_cases hroom : filter.encode.depth ≤ Reader.depthLimit
  · rw [if_pos hroom, decodeText?, selected?_of_parse skips _ _ (parse_of_laid h hroom),
      Option.bind_some, filter.decode?_encode, if_pos exact.finite]
  · -- The reader could do without parts that it skips, but here it skips none.
    have hdeep := Nat.lt_of_not_le hroom
    rw [if_neg hroom, decodeText?, selected?_of_laid h hdeep filter.wanted_encode, Option.bind_none]

/-- Both texts that are printed are such texts. -/
theorem decodeText?_printed {filter : Filter} (exact : filter.Exact) :
    ∀ text ∈ [filter.encode.toText, filter.encode.toIndentedText],
      decodeText? text = if filter.encode.depth ≤ Reader.depthLimit then some filter else none := by
  intro text htext
  rcases List.mem_cons.1 htext with rfl | htext
  · exact decodeText?_of_laid exact (laid_compact _ exact.whole)
  · rw [List.mem_singleton.1 htext]
    exact decodeText?_of_laid exact (laid_indented 0 _ exact.whole)

/-- What is printed for a filter that a document without doubles was built into
    is read as that filter if it has no more than 127 arrays and objects inside
    each other, and as nothing if it has more. It has no more if filters are
    nested no more than 25 deep in the document. -/
theorem printed_is_read_back (settings : Settings) (document : Json) (filter : Filter)
    (whole : document.isWhole = true) (built : (settings.build document).outcome = .ok filter) :
    (∀ text ∈ [filter.encode.toText, filter.encode.toIndentedText],
      decodeText? text = if filter.encode.depth ≤ 127 then some filter else none) ∧
    (nesting document ≤ 25 → filter.encode.depth ≤ 127) := by
  rcases isDocument_of_build _ document filter built with ⟨hdocument, rfl⟩
  have hexact := exact_ofDocument whole hdocument
  refine ⟨decodeText?_printed hexact, fun hnesting => ?_⟩
  -- A whole document stands below no column, so there is no margin.
  have hdepth := depth_ofDocument hdocument
  rw [margin, Option.isSome_none, if_neg (by decide)] at hdepth
  omega

/-- Documents with filters nested inside each other so that every level becomes
    a group around a connective. -/
def tower : Nat → Json
  | 0 => .object [("a", .number (.whole 1 (by decide)))]
  | height + 1 => .object [("a", .null), ("$and", .array [tower height])]

/-- The filter of such a document. -/
def towerFilter : Nat → Filter
  | 0 => .compare "a" .eq (.int 1)
  | height + 1 => .group [.isNull "a", .logical .and [towerFilter height]]

theorem isDocument_tower (height : Nat) : IsDocument none (tower height) := by
  induction height with
  | zero =>
      refine isDocument_column none "a" _ (by decide) ?_
      exact .scalar none "a" _ nofun nofun
  | succ height ih => exact isDocument_storey ih

theorem ofDocument_tower (height : Nat) : ofDocument none (tower height) = towerFilter height := by
  induction height with
  | zero => rfl
  | succ height ih =>
      rw [towerFilter, ← ih]
      exact ofDocument_storey (tower height)

theorem nesting_tower (height : Nat) : nesting (tower height) = height + 1 := by
  induction height with
  | zero => rfl
  | succ height ih => exact (nesting_storey (tower height)).trans (congrArg (· + 1) ih)

theorem isWhole_tower (height : Nat) : (tower height).isWhole = true := by
  induction height with
  | zero => rfl
  | succ height ih =>
      rw [tower, isWhole, entriesWhole, entriesWhole, entriesWhole, isWhole, isWhole, areWhole,
        areWhole, ih]
      rfl

/-- Every level costs five. -/
theorem depth_towerFilter (height : Nat) : (towerFilter height).encode.depth = 5 * height + 3 := by
  induction height with
  | zero => rfl
  | succ height ih =>
      have hnull : (Filter.isNull "a").encode.depth = 2 := rfl
      rw [towerFilter, depth_encode_group]
      simp only [encodeAll, itemsDepth, depth_encode_logical, ih, hnull]
      omega

/-- Towers are built up to the limit that is set without settings. -/
theorem build_tower {height : Nat} (h : height < 32) :
    (({} : Settings).build (tower height)).outcome = .ok (towerFilter height) := by
  rw [← ofDocument_tower, Settings.build, build_of_isDocument_iff _ _ (isDocument_tower height),
    nesting_tower]
  exact h

/-- A document within the limit of 32, with filters nested 26 deep in it, for
    which neither text that is printed can be read. -/
theorem tower_is_not_read_back :
    (tower 25).isWhole = true ∧ nesting (tower 25) = 26 ∧
      ∃ filter, (({} : Settings).build (tower 25)).outcome = .ok filter ∧
        ∀ text ∈ [filter.encode.toText, filter.encode.toIndentedText],
          decodeText? text = none := by
  have hexact : (towerFilter 25).Exact := by
    rw [← ofDocument_tower]
    exact exact_ofDocument (isWhole_tower 25) (isDocument_tower 25)
  -- One level less, and there would be room.
  have hdeep : ¬(towerFilter 25).encode.depth ≤ Reader.depthLimit := by
    rw [depth_towerFilter]
    decide
  refine ⟨isWhole_tower 25, nesting_tower 25, towerFilter 25, build_tower (by decide), ?_⟩
  intro text htext
  rw [decodeText?_printed hexact text htext, if_neg hdeep]

/-- The tower with one level less is read back. -/
theorem printed_is_read_back_tower :
    (tower 24).isWhole = true ∧ (({} : Settings).build (tower 24)).outcome = .ok (towerFilter 24) ∧
      decodeText? (towerFilter 24).encode.toIndentedText = some (towerFilter 24) := by
  have hbuilt := build_tower (by decide : 24 < 32)
  have hread := printed_is_read_back {} (tower 24) (towerFilter 24) (isWhole_tower 24) hbuilt
  have hroom := hread.2 (Nat.le_of_eq (nesting_tower 24))
  refine ⟨isWhole_tower 24, hbuilt, ?_⟩
  rw [hread.1 _ (List.mem_cons_of_mem _ List.mem_cons_self), if_pos hroom]

end Filter

end WhereClause
