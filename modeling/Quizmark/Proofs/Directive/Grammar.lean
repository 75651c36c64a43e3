import Mathlib.Data.List.TakeWhile
import Quizmark.Directive
import Quizmark.Proofs.Text.Blank

/-!
# The grammar of directive parameters

Directive parameters are a name, a label in square brackets and attributes in braces. Label and
attributes may be left out, and either may hold the brackets of the other.

* `IsName`: the names.
* `Header`: parameters as they are written. `Header.chars` is their text and `Header.directive` what
  they stand for.
* `name?_append`, `bracketed_enclosed`: a part that is written is read, whatever follows; `of_name?`
  and `of_bracketed` say the other way round what stands where a part is read.
* `Header.chars_injective`: a text has its parts in one way only.
* `ofChars?_iff`: the texts that are read, and what comes of them.
* `parse_grammar`: all of this in one statement.
-/

namespace Quizmark.Directive

open Text

/-! ## Names -/

/-- The name of a directive is an ASCII letter with letters, numbers, low lines and hyphens behind
it. -/
def IsName (cs : List Char) : Prop :=
  ∃ first rest, cs = first :: rest ∧ first.isAlpha = true ∧ ∀ c ∈ rest, isKeyChar c = true

variable {cs rest name : List Char}

theorem isAsciiLetter_eq (c : Char) : isAsciiLetter c = c.isAlpha := by
  rw [isAsciiLetter, Bool.or_comm, ← Bool.decide_and]
  rfl

theorem name?_append (hname : IsName name) (hrest : ∀ c ∈ rest.head?, isKeyChar c = false) :
    name? (name ++ rest) = some (name, rest) := by
  obtain ⟨first, more, rfl, hfirst, hmore⟩ := hname
  rw [List.cons_append, name?, isAsciiLetter_eq, if_pos hfirst, takeWhile_append_stop hmore hrest,
    dropWhile_append_stop hmore hrest]

theorem of_name? (h : name? cs = some (name, rest)) : IsName name ∧ cs = name ++ rest := by
  cases cs with
  | nil => cases h
  | cons first more =>
    rw [name?, isAsciiLetter_eq] at h
    split at h
    · next hfirst =>
      cases h
      exact ⟨⟨first, _, rfl, hfirst, fun c => List.mem_takeWhile_imp⟩,
        by rw [List.cons_append, List.takeWhile_append_dropWhile]⟩
    · cases h

theorem isKeyChar_of_isAlpha {c : Char} (h : c.isAlpha = true) : isKeyChar c = true := by
  rw [isKeyChar, isWordChar_of_isAlpha h, Bool.or_true]

theorem isKeyChar_hyphen : isKeyChar '-' = true := rfl

/-- Names have no blanks in them, so trimming does not cut into one. -/
theorem isBlank_of_isKeyChar {c : Char} (h : isKeyChar c = true) : isBlank c = false := by
  rcases (Bool.or_eq_true ..).mp h with hhyphen | hword
  · rw [beq_iff_eq.mp hhyphen]
    decide
  · exact isBlank_of_isWordChar hword

/-- A name is made of the characters of keys. -/
theorem IsName.isKeyChar (hname : IsName name) : ∀ c ∈ name, Directive.isKeyChar c = true := by
  obtain ⟨first, rest, rfl, hfirst, hrest⟩ := hname
  exact List.forall_mem_cons.mpr ⟨isKeyChar_of_isAlpha hfirst, hrest⟩

theorem IsName.isBlank (hname : IsName name) : ∀ c ∈ name, Text.isBlank c = false :=
  fun c hc => isBlank_of_isKeyChar (hname.isKeyChar c hc)

/-! ## Brackets -/

/-- A part between its brackets. A part that is left out leaves nothing. -/
def enclosed (first last : Char) : Option (List Char) → List Char
  | none => []
  | some inner => first :: inner ++ [last]

variable {first last : Char} {part : Option (List Char)}

theorem eq_of_mem_head?_enclosed {c : Char} (h : c ∈ (enclosed first last part).head?) :
    c = first := by
  cases part with
  | none => cases h
  | some inner => exact (Option.some.inj h).symm

theorem eq_of_mem_getLast?_enclosed {c : Char} (h : c ∈ (enclosed first last part).getLast?) :
    c = last := by
  cases part with
  | none => cases h
  | some inner =>
    rw [enclosed, List.getLast?_concat] at h
    exact (Option.some.inj h).symm

/-- A part in brackets is read back, and a missing part is missed if no bracket opens what follows.
-/
theorem bracketed_enclosed (hpart : ∀ inner ∈ part, last ∉ inner)
    (hrest : part = none → rest.head? ≠ some first) :
    bracketed first last (enclosed first last part ++ rest) = (part, rest) := by
  cases part with
  | none =>
    cases rest with
    | nil => rfl
    | cons c rest =>
      have hc : c ≠ first := by simpa using hrest rfl
      rw [enclosed, List.nil_append, bracketed, if_neg hc]
  | some inner =>
    have hclosed : last ∉ inner := hpart inner rfl
    rw [enclosed, List.append_assoc, List.singleton_append, List.cons_append, bracketed,
      if_pos rfl, dropWhile_ne_append hclosed, takeWhile_ne_append hclosed]

/-- What is read in brackets stood there in brackets, and its first closing bracket closed it. -/
theorem of_bracketed (h : bracketed first last cs = (part, rest)) :
    cs = enclosed first last part ++ rest ∧ ∀ inner ∈ part, last ∉ inner := by
  unfold bracketed at h
  split at h
  · cases h
    simp [enclosed]
  · next c behind =>
    split at h
    · next hfirst =>
      split at h
      · cases h
        simp [enclosed]
      · next close after hclose =>
        cases h
        -- The search stops at the closing bracket and nowhere before it.
        have hlast : close = last := by
          have hstop := List.head?_dropWhile_not (· != last) behind
          rw [hclose] at hstop
          simpa using hstop
        have hinner : last ∉ behind.takeWhile (· != last) := fun hmem => by
          simpa using List.mem_takeWhile_imp hmem
        refine ⟨?_, by simpa using hinner⟩
        have hcut := List.takeWhile_append_dropWhile (p := (· != last)) (l := behind)
        rw [hclose, hlast] at hcut
        rw [enclosed, hfirst, List.append_assoc, List.singleton_append, List.cons_append, hcut]
    · cases h
      simp [enclosed]

/-! ## Headers -/

/-- The parameters of a directive as they are written. -/
@[ext] structure Header where
  name : List Char
  /-- What stands in the square brackets. -/
  label : Option (List Char)
  /-- What stands in the braces. -/
  source : Option (List Char)
  isName : IsName name
  label_closed : ∀ inner ∈ label, ']' ∉ inner
  source_closed : ∀ inner ∈ source, '\x7d' ∉ inner

namespace Header

/-- The text of a header. -/
def chars (header : Header) : List Char :=
  header.name ++ enclosed '[' ']' header.label ++ enclosed '\x7b' '\x7d' header.source

/-- The parameters that a header stands for. -/
def directive (header : Header) : Directive :=
  ⟨String.ofList header.name, header.label.map String.ofList, header.source.map attributesIn⟩

theorem name?_chars (header : Header) :
    name? header.chars = some (header.name,
      enclosed '[' ']' header.label ++ enclosed '\x7b' '\x7d' header.source) := by
  rw [chars, List.append_assoc]
  refine name?_append header.isName fun c hc => ?_
  rw [List.head?_append] at hc
  rcases Option.or_eq_some_iff.mp hc with hc | ⟨-, hc⟩
  · rw [eq_of_mem_head?_enclosed hc]
    decide
  · rw [eq_of_mem_head?_enclosed hc]
    decide

theorem bracketed_label (header : Header) :
    bracketed '[' ']' (enclosed '[' ']' header.label ++ enclosed '\x7b' '\x7d' header.source) =
      (header.label, enclosed '\x7b' '\x7d' header.source) := by
  refine bracketed_enclosed header.label_closed fun _ => ?_
  cases header.source with
  | none => simp [enclosed]
  | some inner => simp [enclosed]

theorem bracketed_source (header : Header) :
    bracketed '\x7b' '\x7d' (enclosed '\x7b' '\x7d' header.source) = (header.source, []) := by
  have h := @bracketed_enclosed [] '\x7b' '\x7d' header.source header.source_closed (by simp)
  rwa [List.append_nil] at h

/-- A text is cut into a name, a label and a source in one way only, since each part is read from
it. -/
theorem chars_injective : Function.Injective chars := by
  intro header other h
  have hname := header.name?_chars
  rw [h, other.name?_chars, Option.some.injEq, Prod.mk.injEq] at hname
  have hlabel := header.bracketed_label
  rw [← hname.2, other.bracketed_label, Prod.mk.injEq] at hlabel
  have hsource := header.bracketed_source
  rw [← hlabel.2, other.bracketed_source, Prod.mk.injEq] at hsource
  exact Header.ext hname.1.symm hlabel.1.symm hsource.1.symm

theorem existsUnique_iff :
    (∃! header : Header, cs = header.chars) ↔ ∃ header : Header, cs = header.chars := by
  refine ⟨ExistsUnique.exists, fun ⟨header, hcs⟩ => ⟨header, hcs, fun other hother => ?_⟩⟩
  exact chars_injective (hother.symm.trans hcs)

/-- A header neither begins nor ends with a blank. -/
theorem trim_chars (header : Header) : trim header.chars = header.chars := by
  refine trim_eq_self (fun c hc => ?_) fun c hc => ?_
  · obtain ⟨first, rest, hname, hfirst, -⟩ := header.isName
    rw [chars, hname] at hc
    rw [← Option.some.inj hc]
    exact isBlank_of_isAlpha hfirst
  · rw [chars, List.getLast?_append, List.getLast?_append] at hc
    rcases Option.or_eq_some_iff.mp hc with hc | ⟨-, hc⟩
    · rw [eq_of_mem_getLast?_enclosed hc]
      decide
    rcases Option.or_eq_some_iff.mp hc with hc | ⟨-, hc⟩
    · rw [eq_of_mem_getLast?_enclosed hc]
      decide
    · exact header.isName.isBlank c (List.mem_of_getLast? hc)

end Header

/-! ## Reading -/

/-- The parser reads exactly the headers, and gives what they stand for. -/
theorem ofChars?_iff {directive : Directive} :
    ofChars? cs = some directive ↔
      ∃ header : Header, trim cs = header.chars ∧ directive = header.directive := by
  constructor
  · intro h
    rw [ofChars?] at h
    obtain ⟨⟨name, rest⟩, hname, h⟩ := Option.bind_eq_some_iff.mp h
    obtain ⟨hisName, hcs⟩ := of_name? hname
    rcases hlabel : bracketed '[' ']' rest with ⟨label, behind⟩
    rcases hsource : bracketed '\x7b' '\x7d' behind with ⟨source, last⟩
    simp only [hlabel, hsource] at h
    -- Anything left behind the source is an error.
    split at h
    · next hlast =>
      cases h
      obtain ⟨hrest, hclosed⟩ := of_bracketed hlabel
      obtain ⟨hbehind, hclosed'⟩ := of_bracketed hsource
      refine ⟨⟨name, label, source, hisName, hclosed, hclosed'⟩, ?_, rfl⟩
      rw [hcs, hrest, hbehind, List.isEmpty_iff.mp hlast]
      simp [Header.chars]
    · cases h
  · rintro ⟨header, hcs, rfl⟩
    rw [ofChars?, hcs, header.name?_chars]
    simp only [Option.bind_eq_bind, Option.bind_some, header.bracketed_label,
      header.bracketed_source]
    rfl

/-- The check that comes before the parser lets through exactly the headers. -/
theorem accepts_iff : accepts cs = true ↔ ∃ header : Header, trim cs = header.chars := by
  rw [accepts, Option.isSome_iff_exists]
  constructor
  · rintro ⟨directive, h⟩
    obtain ⟨header, hcs, -⟩ := ofChars?_iff.mp h
    exact ⟨header, hcs⟩
  · rintro ⟨header, hcs⟩
    exact ⟨header.directive, ofChars?_iff.mpr ⟨header, hcs, rfl⟩⟩

theorem parse_ok_iff {params : String} {directive : Directive} :
    parse params = .ok directive ↔ ofChars? params.toList = some directive := by
  unfold parse
  split <;> simp_all

/-- Parsing fails exactly where the check does, and the error names the parameters. -/
theorem parse_error_iff {params : String} {error : Error} :
    parse params = .error error ↔ accepts params.toList = false ∧ error = .badDirective params := by
  rw [parse, accepts]
  cases ofChars? params.toList <;> simp [eq_comm]

theorem parse_chars (header : Header) :
    parse (String.ofList header.chars) = .ok header.directive := by
  rw [parse_ok_iff, String.toList_ofList, ofChars?_iff]
  exact ⟨header, header.trim_chars, rfl⟩

/-- **The grammar of directive parameters.** Parameters are read exactly if they are accepted as the
opening of a directive, and that is if they are a header with blanks around it; there is one header
at most. All else is an error. A header is read as it stands: a part that is left out is none, and
empty brackets hold an empty part. -/
theorem parse_grammar :
    (∀ params : String,
      ((∃ directive, parse params = .ok directive) ↔ accepts params.toList = true) ∧
      (accepts params.toList = true ↔ ∃! header : Header, trim params.toList = header.chars) ∧
      (parse params = .error (.badDirective params) ↔
        ¬ ∃ header : Header, trim params.toList = header.chars)) ∧
    ∀ header : Header, parse (String.ofList header.chars) =
      .ok ⟨String.ofList header.name, header.label.map String.ofList,
        header.source.map attributesIn⟩ := by
  refine ⟨fun params => ⟨?_, ?_, ?_⟩, parse_chars⟩
  · simp only [parse_ok_iff, accepts, Option.isSome_iff_exists]
  · rw [accepts_iff, Header.existsUnique_iff]
  · rw [parse_error_iff, and_iff_left rfl, ← Bool.not_eq_true, accepts_iff]

/-- The label holds a brace and an opening bracket, and the braces are empty. -/
example :
    (parse " tip[a [b \x7bc]\x7b\x7d ").toOption.map (·.label) = some (some "a [b \x7bc") := by
  decide

end Quizmark.Directive
