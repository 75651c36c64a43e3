import Quizmark.Proofs.Directive.Grammar

/-!
# Directive attributes as they are written

An author writes attributes as items with spaces between them: an id, classes, and keys with a value
in quotation marks.

* `Item`: an item, its text and the attribute that is found in it (`written?_item`).
* `Spaced`: items in a text. These and no others are found there (`allWritten_spaced`).
* `AttributeBlock`: what an author means. `attributesOf` are the attributes of it.
* `unquoted`: a value is read without its quotation marks, but an apostrophe at either end of the
  value goes with them.
* `parse_attributes`: what is read from a block, and when it is what was meant.
-/

namespace Quizmark.Directive

open Text

/-! ## Items -/

/-- A key is one character or more, each a letter, a number, a low line or a hyphen. -/
def IsKey (key : String) : Prop := key ≠ "" ∧ ∀ c ∈ key.toList, isKeyChar c = true

/-- A key is not taken for an id or a class. -/
theorem IsKey.exists_cons {key : String} (h : IsKey key) :
    ∃ c cs, key.toList = c :: cs ∧ c ≠ '#' ∧ c ≠ '.' := by
  obtain ⟨c, cs, hcs⟩ := List.exists_cons_of_ne_nil (mt String.toList_eq_nil_iff.mp h.1)
  have hc : isKeyChar c = true := h.2 c (by simp [hcs])
  refine ⟨c, cs, hcs, ?_, ?_⟩
  · rintro rfl
    exact absurd hc (by decide)
  · rintro rfl
    exact absurd hc (by decide)

/-- An item between the braces: an id, a class, or a key with a value. -/
inductive Item where
  | id (key : String)
  | cls (key : String)
  | pair (key value : String)

namespace Item

/-- The text of an item. -/
def chars : Item → List Char
  | id key => '#' :: key.toList
  | cls key => '.' :: key.toList
  | pair key value => key.toList ++ '=' :: '\x22' :: value.toList ++ ['\x22']

/-- The attribute that an item is read as. -/
def written : Item → Written
  | id key => ⟨'#' :: key.toList, []⟩
  | cls key => ⟨'.' :: key.toList, []⟩
  | pair key value => ⟨key.toList, '\x22' :: value.toList ++ ['\x22']⟩

/-- An item can be written: its key is one, and its value ends neither itself nor the block. -/
def IsWritable : Item → Prop
  | id key => IsKey key
  | cls key => IsKey key
  | pair key value => IsKey key ∧ '\x22' ∉ value.toList ∧ '\x7d' ∉ value.toList

theorem chars_ne_nil (item : Item) : item.chars ≠ [] := by
  cases item <;> simp [chars]

theorem brace_notMem {item : Item} (h : item.IsWritable) : '\x7d' ∉ item.chars := by
  have hkey : ∀ {key : String}, IsKey key → '\x7d' ∉ key.toList := fun hkey hmem =>
    absurd (hkey.2 _ hmem) (by decide)
  cases item with
  | id key => simpa [chars] using hkey h
  | cls key => simpa [chars] using hkey h
  | pair key value => simpa [chars] using ⟨hkey h.1, h.2.2⟩

end Item

theorem valueAfterKey_of_ne {cs : List Char} (h : cs.head? ≠ some '=') :
    valueAfterKey cs = ([], 0) := by
  unfold valueAfterKey
  split
  · exact absurd rfl h
  · rfl

theorem valueAfterKey_quoted {value : List Char} (h : '\x22' ∉ value) (rest : List Char) :
    valueAfterKey ('=' :: '\x22' :: value ++ '\x22' :: rest) =
      ('\x22' :: value ++ ['\x22'], value.length + 3) := by
  have hquoted : quotedValue? '\x22' (value ++ '\x22' :: rest) =
      some ('\x22' :: value ++ ['\x22'], value.length + 2) := by
    rw [quotedValue?, dropWhile_ne_append h, takeWhile_ne_append h]
  rw [List.cons_append, List.cons_append, valueAfterKey, writtenValue?, if_pos (by decide), hquoted]

/-- A mark, a key behind it and whatever value follows are read as one attribute. -/
theorem written?_append {mark rest : List Char} {key : String}
    (hmark : mark = ['#'] ∨ mark = ['.'] ∨ mark = []) (hkey : IsKey key)
    (hrest : ∀ c ∈ rest.head?, isKeyChar c = false) :
    written? (mark ++ (key.toList ++ rest)) =
      some (⟨mark ++ key.toList, (valueAfterKey rest).1⟩,
        mark.length + key.toList.length + (valueAfterKey rest).2) := by
  obtain ⟨c, cs, hcs, hhash, hdot⟩ := hkey.exists_cons
  have htake := takeWhile_append_stop hkey.2 hrest
  have hdrop := dropWhile_append_stop hkey.2 hrest
  rw [hcs, List.cons_append] at htake hdrop ⊢
  rcases hmark with rfl | rfl | rfl
  · simp [written?, htake, hdrop]
  · simp [written?, htake, hdrop]
  · simp [written?, htake, hdrop, hhash, hdot]

/-- What may stand behind an item: nothing, or a space. -/
def Ends (rest : List Char) : Prop := ∀ c ∈ rest.head?, c = ' '

/-- An attribute is read as it was written, if a space or the end follows it. -/
theorem written?_item {item : Item} {rest : List Char} (hitem : item.IsWritable)
    (hrest : Ends rest) :
    written? (item.chars ++ rest) = some (item.written, item.chars.length) := by
  -- What follows ends the key, and it is no value.
  have hkeys : ∀ c ∈ rest.head?, isKeyChar c = false := fun c hc => by
    rw [hrest c hc]
    decide
  have hvalue : valueAfterKey rest = ([], 0) := valueAfterKey_of_ne fun hequals =>
    absurd (hrest _ hequals) (by decide)
  cases item with
  | id key =>
    have h := written?_append (.inl rfl) hitem hkeys
    rw [hvalue] at h
    simpa [Item.chars, Item.written, Nat.add_comm] using h
  | cls key =>
    have h := written?_append (.inr (.inl rfl)) hitem hkeys
    rw [hvalue] at h
    simpa [Item.chars, Item.written, Nat.add_comm] using h
  | pair key value =>
    have hstop : ∀ c ∈ ('=' :: '\x22' :: value.toList ++ '\x22' :: rest).head?,
        isKeyChar c = false := by
      intro c hc
      rw [← Option.some.inj hc]
      decide
    have h := written?_append (.inr (.inr rfl)) hitem.1 hstop
    rw [valueAfterKey_quoted hitem.2.1] at h
    simpa [Item.chars, Item.written, Nat.add_assoc] using h

/-! ## Items in a text -/

theorem allWrittenFrom_eq_drop (skip : Nat) (cs : List Char) :
    allWrittenFrom skip cs = allWritten (cs.drop skip) := by
  induction skip generalizing cs with
  | zero => rfl
  | succ skip ih =>
    cases cs with
    | nil => simp [allWritten, allWrittenFrom]
    | cons c cs => rw [allWrittenFrom, ih, List.drop_succ_cons]

/-- The item at the front of a text is found first, and the search goes on behind it. -/
theorem allWritten_item {item : Item} {rest : List Char} (hitem : item.IsWritable)
    (hrest : Ends rest) :
    allWritten (item.chars ++ rest) = item.written :: allWritten rest := by
  obtain ⟨c, cs, hcs⟩ := List.exists_cons_of_ne_nil item.chars_ne_nil
  have hfound := written?_item hitem hrest
  rw [hcs, List.cons_append] at hfound ⊢
  rw [allWritten, allWrittenFrom, hfound]
  simp [allWrittenFrom_eq_drop]

theorem allWritten_spaces (n : Nat) (rest : List Char) :
    allWritten (List.replicate n ' ' ++ rest) = allWritten rest := by
  induction n with
  | zero => rfl
  | succ n ih =>
    have hnone : written? (' ' :: (List.replicate n ' ' ++ rest)) = none := by
      simp [written?, (by decide : isKeyChar ' ' = false)]
    rw [List.replicate_succ, List.cons_append, allWritten, allWrittenFrom, hnone]
    exact ih

/-- Items stand in a text one behind the other, with one space or more between two of them. -/
inductive Spaced : List Item → List Char → Prop where
  | nil : Spaced [] []
  | single (item : Item) : Spaced [item] item.chars
  | cons (item : Item) (n : Nat) {next : Item} {items : List Item} {text : List Char} :
    Spaced (next :: items) text →
    Spaced (item :: next :: items) (item.chars ++ (List.replicate (n + 1) ' ' ++ text))

/-- Attributes with spaces between them are read one after the other. -/
theorem allWritten_spaced {items : List Item} {text : List Char} (h : Spaced items text)
    (hitems : ∀ item ∈ items, item.IsWritable) : allWritten text = items.map Item.written := by
  induction h with
  | nil => rfl
  | single item =>
    have hends : Ends [] := by simp [Ends]
    have h := allWritten_item (hitems item (List.mem_cons_self ..)) hends
    rwa [List.append_nil] at h
  | @cons item n next items text h ih =>
    obtain ⟨hitem, hrest⟩ := List.forall_mem_cons.mp hitems
    have hends : Ends (List.replicate (n + 1) ' ' ++ text) := fun c hc => (Option.some.inj hc).symm
    rw [allWritten_item hitem hends, allWritten_spaces, ih hrest]
    rfl

theorem Spaced.notMem {items : List Item} {text : List Char} {c : Char} (h : Spaced items text)
    (hspace : c ≠ ' ') (hitems : ∀ item ∈ items, c ∉ item.chars) : c ∉ text := by
  induction h with
  | nil => exact List.not_mem_nil
  | single item => exact hitems item (List.mem_cons_self ..)
  | cons item n h ih =>
    obtain ⟨hitem, hrest⟩ := List.forall_mem_cons.mp hitems
    simp only [List.mem_append, List.mem_replicate, not_or]
    exact ⟨hitem, fun hmem => hspace hmem.2, ih hrest⟩

/-! ## Blocks -/

/-- The attributes that an id, classes and pairs of a key and a value stand for. -/
def attributesOf (ident : Option String) (classes : List String) (pairs : List (String × String)) :
    List (String × String) :=
  (ident.map ("id", ·)).toList ++ pairs ++
    if classes = [] then [] else [("class", " ".intercalate classes)]

/-- A value without the quotation marks and apostrophes at its ends. -/
def unquoted (value : String) : String :=
  String.ofList (trimChars ['\x22', '\x27'] value.toList)

/-- The attributes of a directive as an author means them. -/
structure AttributeBlock where
  ident : Option String
  classes : List String
  pairs : List (String × String)
  ident_isKey : ∀ key ∈ ident, IsKey key
  classes_isKey : ∀ key ∈ classes, IsKey key
  pairs_isKey : ∀ pair ∈ pairs, IsKey pair.1
  unreserved : ∀ pair ∈ pairs, pair.1 ≠ "id" ∧ pair.1 ≠ "class"
  closed : ∀ pair ∈ pairs, '\x22' ∉ pair.2.toList ∧ '\x7d' ∉ pair.2.toList
  distinct : (pairs.map Prod.fst).Nodup

namespace AttributeBlock

/-- The items of a block in the order in which they are written. -/
def items (block : AttributeBlock) : List Item :=
  (block.ident.map Item.id).toList ++ block.classes.map Item.cls ++
    block.pairs.map fun pair => .pair pair.1 pair.2

/-- The attributes that an author means. -/
def meant (block : AttributeBlock) : List (String × String) :=
  attributesOf block.ident block.classes block.pairs

/-- The attributes that are read. -/
def found (block : AttributeBlock) : List (String × String) :=
  attributesOf block.ident block.classes (block.pairs.map (Prod.map id unquoted))

theorem isWritable (block : AttributeBlock) : ∀ item ∈ block.items, item.IsWritable := by
  intro item hitem
  rw [items, List.mem_append, List.mem_append] at hitem
  rcases hitem with (hid | hclass) | hmem
  · obtain ⟨key, hkey, rfl⟩ := Option.map_eq_some_iff.mp (Option.mem_toList.mp hid)
    exact block.ident_isKey key hkey
  · obtain ⟨key, hkey, rfl⟩ := List.mem_map.mp hclass
    exact block.classes_isKey key hkey
  · obtain ⟨pair, hpair, rfl⟩ := List.mem_map.mp hmem
    exact ⟨block.pairs_isKey pair hpair, block.closed pair hpair⟩

theorem map_written_items (block : AttributeBlock) :
    block.items.map Item.written =
      (block.ident.map fun key => (Item.id key).written).toList ++
        (block.classes.map fun key => (Item.cls key).written) ++
        block.pairs.map fun pair => (Item.pair pair.1 pair.2).written := by
  cases hid : block.ident <;> simp [items, hid, Function.comp_def]

end AttributeBlock

/-! ## Adding what is written -/

theorem setAttribute_of_notMem {key : String} {attributes : List (String × String)}
    (h : key ∉ attributes.map Prod.fst) (value : String) :
    setAttribute key value attributes = attributes ++ [(key, value)] := by
  induction attributes with
  | nil => rfl
  | cons first rest ih =>
    simp only [List.map_cons, List.mem_cons, not_or] at h
    rw [setAttribute, if_neg (Ne.symm h.1), ih h.2, List.cons_append]

theorem addWritten_pair {key value : String} (hkey : IsKey key)
    (attributes : List (String × String)) :
    addWritten attributes (Item.pair key value).written =
      setAttribute key (unquoted value) attributes := by
  obtain ⟨c, cs, hcs, hhash, hdot⟩ := hkey.exists_cons
  have hvalue : trimChars ['\x22', '\x27'] ('\x22' :: value.toList ++ ['\x22']) =
      trimChars ['\x22', '\x27'] value.toList := by
    rw [trimChars_concat_of_mem (by decide), trimChars_cons_of_mem (by decide)]
  have hread : addWritten attributes (Item.pair key value).written =
      setAttribute (String.ofList key.toList) (unquoted value) attributes := by
    rw [Item.written, hcs, unquoted, ← hvalue]
    simp [addWritten, hhash, hdot]
  rw [hread, String.ofList_toList]

/-- Pairs with new keys go to the end one after the other. -/
theorem foldl_addWritten_pairs {pairs attributes : List (String × String)}
    (hkey : ∀ pair ∈ pairs, IsKey pair.1) (hnodup : (pairs.map Prod.fst).Nodup)
    (hfresh : ∀ pair ∈ pairs, pair.1 ∉ attributes.map Prod.fst) :
    (pairs.map fun pair => (Item.pair pair.1 pair.2).written).foldl addWritten attributes =
      attributes ++ pairs.map (Prod.map id unquoted) := by
  induction pairs generalizing attributes with
  | nil => simp
  | cons pair pairs ih =>
    obtain ⟨hpair, hpairs⟩ := List.forall_mem_cons.mp hkey
    obtain ⟨hfirst, hrest⟩ := List.forall_mem_cons.mp hfresh
    rw [List.map_cons, List.nodup_cons] at hnodup
    -- The keys differ, so the next ones are still new after this one.
    have hfresh' : ∀ other ∈ pairs,
        other.1 ∉ (attributes ++ [(pair.1, unquoted pair.2)]).map Prod.fst := by
      intro other hother
      have hne : other.1 ≠ pair.1 := fun heq => hnodup.1 (heq ▸ List.mem_map_of_mem hother)
      simp [hne, hrest other hother]
    rw [List.map_cons, List.foldl_cons, addWritten_pair hpair, setAttribute_of_notMem hfirst,
      ih hpairs hnodup.2 hfresh', List.map_cons, List.append_assoc]
    rfl

/-- Classes are collected apart, so they add nothing here. -/
theorem foldl_addWritten_classes (keys : List String) (attributes : List (String × String)) :
    (keys.map fun key => (Item.cls key).written).foldl addWritten attributes = attributes := by
  induction keys with
  | nil => rfl
  | cons key keys ih => exact ih

theorem classes_pairs {pairs : List (String × String)} (hkey : ∀ pair ∈ pairs, IsKey pair.1) :
    classes (pairs.map fun pair => (Item.pair pair.1 pair.2).written) = [] := by
  rw [classes, List.filterMap_map, List.filterMap_eq_nil_iff]
  intro pair hpair
  obtain ⟨c, cs, hcs, -, hdot⟩ := (hkey pair hpair).exists_cons
  simp [Item.written, hcs, hdot]

theorem classes_append (front back : List Written) :
    classes (front ++ back) = classes front ++ classes back := List.filterMap_append

namespace AttributeBlock

variable (block : AttributeBlock)

/-- The classes that are read are those that were written, in their order. -/
theorem classes_items : Directive.classes (block.items.map Item.written) = block.classes := by
  have hid : Directive.classes (block.ident.map fun key => (Item.id key).written).toList = [] := by
    cases block.ident <;> rfl
  have hclasses : Directive.classes (block.classes.map fun key => (Item.cls key).written) =
      block.classes := by
    simp [Directive.classes, List.filterMap_map, Item.written]
  rw [map_written_items, classes_append, classes_append, hid, hclasses,
    classes_pairs block.pairs_isKey, List.nil_append, List.append_nil]

/-- Beside the classes, the id comes first, and each pair gets the value that is left of its quoted
value. -/
theorem foldl_addWritten_items :
    (block.items.map Item.written).foldl addWritten [] =
      (block.ident.map ("id", ·)).toList ++ block.pairs.map (Prod.map id unquoted) := by
  have hid : (block.ident.map fun key => (Item.id key).written).toList.foldl addWritten [] =
      (block.ident.map ("id", ·)).toList := by
    cases block.ident with
    | none => rfl
    | some key => simp [Item.written, addWritten, setAttribute]
  have hfresh : ∀ pair ∈ block.pairs,
      pair.1 ∉ ((block.ident.map ("id", ·)).toList).map Prod.fst := by
    intro pair hpair
    have hne := (block.unreserved pair hpair).1
    cases block.ident with
    | none => simp
    | some key => simpa using hne
  rw [map_written_items, List.foldl_append, List.foldl_append, hid, foldl_addWritten_classes,
    foldl_addWritten_pairs block.pairs_isKey block.distinct hfresh]

theorem attributesIn_spaced {text : List Char} (h : Spaced block.items text) :
    attributesIn text = block.found := by
  have hfresh : "class" ∉ ((block.ident.map ("id", ·)).toList ++
      block.pairs.map (Prod.map id unquoted)).map Prod.fst := by
    have hunreserved : ∀ value, ("class", value) ∉ block.pairs := fun value hpair =>
      (block.unreserved _ hpair).2 rfl
    cases block.ident <;> simp [hunreserved]
  rw [attributesIn, allWritten_spaced h block.isWritable, classes_items, foldl_addWritten_items,
    found, attributesOf]
  split
  · next hnone => rw [if_pos hnone, List.append_nil]
  · next hne => rw [if_neg hne, setAttribute_of_notMem hfresh]

end AttributeBlock

/-! ## What is lost -/

theorem notMem_marks_iff {end? : Option Char} (h : '\x22' ∉ end?) :
    (∀ c ∈ end?, c ∉ ['\x22', '\x27']) ↔ end? ≠ some '\x27' := by
  cases end? with
  | none => simp
  | some c =>
    have hc : c ≠ '\x22' := by simpa using h
    simp [hc]

/-- A value comes through unchanged exactly if it neither begins nor ends with an apostrophe. -/
theorem unquoted_eq_self_iff {value : String} (h : '\x22' ∉ value.toList) :
    unquoted value = value ↔
      value.toList.head? ≠ some '\x27' ∧ value.toList.getLast? ≠ some '\x27' := by
  have hfirst : '\x22' ∉ value.toList.head? := fun hmem => h (List.mem_of_head? hmem)
  have hlast : '\x22' ∉ value.toList.getLast? := fun hmem => h (List.mem_of_getLast? hmem)
  rw [unquoted, ← String.toList_inj, String.toList_ofList, trimChars_eq_self_iff,
    notMem_marks_iff hfirst, notMem_marks_iff hlast]

/-- A block is read as it was meant exactly if all its values come through. -/
theorem AttributeBlock.found_eq_meant_iff (block : AttributeBlock) :
    block.found = block.meant ↔ ∀ pair ∈ block.pairs,
      pair.2.toList.head? ≠ some '\x27' ∧ pair.2.toList.getLast? ≠ some '\x27' := by
  have hpairs : block.pairs.map (Prod.map id unquoted) = block.pairs ↔
      ∀ pair ∈ block.pairs, unquoted pair.2 = pair.2 := by
    conv_lhs => rhs; rw [← List.map_id block.pairs]
    rw [List.map_inj_left]
    exact forall₂_congr fun pair _ => by simp [Prod.ext_iff]
  rw [found, meant, attributesOf, attributesOf, List.append_cancel_right_eq,
    List.append_cancel_left_eq, hpairs]
  exact forall₂_congr fun pair hpair => unquoted_eq_self_iff (block.closed pair hpair).1

/-- **What is read from attributes.** Behind the name of a directive, a block of attributes is read
as the id, the pairs and the classes that are written, but an apostrophe at either end of a value
is taken for a quotation mark. So all attributes are read as they are meant exactly if no value
begins or ends with an apostrophe. -/
theorem parse_attributes {name : List Char} (hname : IsName name) (block : AttributeBlock)
    {text : List Char} (htext : Spaced block.items text) :
    parse (String.ofList (name ++ '\x7b' :: text ++ ['\x7d'])) =
        .ok ⟨String.ofList name, none, some block.found⟩ ∧
      (block.found = block.meant ↔ ∀ pair ∈ block.pairs,
        pair.2.toList.head? ≠ some '\x27' ∧ pair.2.toList.getLast? ≠ some '\x27') := by
  have hclosed : '\x7d' ∉ text := htext.notMem (by decide) fun item hitem =>
    Item.brace_notMem (block.isWritable item hitem)
  have hparse := parse_chars ⟨name, none, some text, hname, by simp, by simpa using hclosed⟩
  rw [Header.chars, Header.directive] at hparse
  simp only [enclosed, List.append_nil, Option.map_some, Option.map_none,
    block.attributesIn_spaced htext] at hparse
  rw [List.append_assoc, hparse]
  exact ⟨rfl, block.found_eq_meant_iff⟩

/-- A block with an id, two classes and a value that holds the marks of all other items. -/
def AttributeBlock.tide : AttributeBlock where
  ident := some "x"
  classes := ["a", "b-c"]
  pairs := [("key", "it's #1 .d e='2'?")]
  ident_isKey := by simp [IsKey, isKeyChar_of_isAlpha]
  classes_isKey := by simp [IsKey, isKeyChar_of_isAlpha, isKeyChar_hyphen]
  pairs_isKey := by simp [IsKey, isKeyChar_of_isAlpha]
  unreserved := by decide
  closed := by decide
  distinct := by decide

/-- The marks inside a value begin no item, and its apostrophes stay since none stands at an end. -/
theorem parse_attributes_tide :
    (IsName "tip".toList ∧
      Spaced AttributeBlock.tide.items "#x .a  .b-c key=\x22it's #1 .d e='2'?\x22".toList) ∧
      parse "tip\x7b#x .a  .b-c key=\x22it's #1 .d e='2'?\x22\x7d" =
        .ok ⟨"tip", none,
          some [("id", "x"), ("key", "it's #1 .d e='2'?"), ("class", "a b-c")]⟩ := by
  have hname : IsName "tip".toList :=
    ⟨'t', ['i', 'p'], rfl, by decide, by simp [isKeyChar_of_isAlpha]⟩
  have hspaced : Spaced AttributeBlock.tide.items
      "#x .a  .b-c key=\x22it's #1 .d e='2'?\x22".toList :=
    .cons (.id "x") 0 <| .cons (.cls "a") 1 <| .cons (.cls "b-c") 0 <|
      .single (.pair "key" "it's #1 .d e='2'?")
  obtain ⟨hparse, hmeant⟩ := parse_attributes hname AttributeBlock.tide hspaced
  rw [hmeant.mpr (by decide)] at hparse
  exact ⟨⟨hname, hspaced⟩, hparse⟩

/-- Apostrophes around a value in quotation marks do not come out. -/
theorem apostrophes_are_lost :
    parse "note\x7bk=\x22'a'\x22\x7d" = .ok ⟨"note", none, some [("k", "a")]⟩ ∧
      parse "note\x7bk=\x22'a'\x22\x7d" ≠ .ok ⟨"note", none, some [("k", "'a'")]⟩ := by
  have hparse : parse "note\x7bk=\x22'a'\x22\x7d" = .ok ⟨"note", none, some [("k", "a")]⟩ := rfl
  refine ⟨hparse, ?_⟩
  rw [hparse]
  simp

end Quizmark.Directive
