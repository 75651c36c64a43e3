import Mathlib.Data.List.Count
import Mathlib.Data.List.Nodup
import Quizmark.HeadingId
import Quizmark.Proofs.Text.Blank

/-!
# Numbered ids

The ids that a counter gives to a list of base ids, without the headings around them.

* `Counter.addAll`: the counter after a list of base ids; it counts each of them once more
  (`count_addAll`).
* `ids`: the ids that a counter gives to a list of base ids, one after the other.
* `tickets`: each base id with the number that it is given. No ticket is given twice
  (`tickets_nodup`), and which ones are given depends only on how often a base id comes
  (`mem_tickets`).
* `ids_nodup_iff`: the ids from a fresh counter are pairwise distinct exactly if they are
  `Unambiguous`: no base id is written like a repeat of another one with a number that is given.
-/

namespace Quizmark.HeadingId

/-! ## Counting -/

theorem Counter.count_add (counter : Counter) (base id : String) :
    (counter.add base).count id = counter.count id + if base = id then 1 else 0 := by
  induction counter with
  | nil => simp [add, count]
  | cons entry rest ih =>
    obtain ⟨k, n⟩ := entry
    unfold add
    split
    · rename_i hk
      subst hk
      unfold count
      split <;> simp
    · rename_i hk
      unfold count
      split
      · rename_i hid
        subst hid
        simp [Ne.symm hk]
      · exact ih

/-- The counter after a list of base ids. -/
def Counter.addAll (counter : Counter) (bases : List String) : Counter := bases.foldl add counter

@[simp] theorem Counter.addAll_nil (counter : Counter) : counter.addAll [] = counter := rfl

@[simp] theorem Counter.addAll_cons (counter : Counter) (base : String) (bases : List String) :
    counter.addAll (base :: bases) = (counter.add base).addAll bases := rfl

theorem Counter.addAll_append (counter : Counter) (xs ys : List String) :
    counter.addAll (xs ++ ys) = (counter.addAll xs).addAll ys := by
  simp [addAll]

theorem Counter.count_addAll (counter : Counter) (bases : List String) (id : String) :
    (counter.addAll bases).count id = counter.count id + bases.count id := by
  induction bases generalizing counter with
  | nil => simp
  | cons base bases ih =>
    rw [addAll_cons, ih, count_add, List.count_cons]
    by_cases h : base = id <;> simp [h]
    omega

/-- A counter counts with natural numbers. -/
def Counter.Natural (counter : Counter) : Prop := ∀ id, ∃ seen : Nat, counter.count id = seen

theorem Counter.Natural.nil : Counter.Natural [] := fun _ => ⟨0, rfl⟩

theorem Counter.Natural.addAll {counter : Counter} (h : counter.Natural) (bases : List String) :
    (counter.addAll bases).Natural := by
  intro id
  obtain ⟨seen, hseen⟩ := h id
  exact ⟨seen + bases.count id, by rw [count_addAll, hseen]; rfl⟩

/-! ## The ids of a list of base ids -/

/-- Each base id with the number that a counter gives it. -/
def tickets (counter : Counter) : List String → List (String × Int)
  | [] => []
  | base :: rest => (base, counter.count base) :: tickets (counter.add base) rest

/-- The ids that a counter gives to base ids. -/
def ids (counter : Counter) (bases : List String) : List String :=
  (tickets counter bases).map fun ticket => numbered ticket.1 ticket.2

@[simp] theorem ids_nil (counter : Counter) : ids counter [] = [] := rfl

@[simp] theorem ids_cons (counter : Counter) (base : String) (rest : List String) :
    ids counter (base :: rest) =
      numbered base (counter.count base) :: ids (counter.add base) rest := rfl

/-- The ids of the second half depend on the first half by the counter alone. -/
theorem ids_append (counter : Counter) (xs ys : List String) :
    ids counter (xs ++ ys) = ids counter xs ++ ids (counter.addAll xs) ys := by
  induction xs generalizing counter with
  | nil => rfl
  | cons x xs ih => simp [ih]

/-- The tickets of a base id run from its first count to its last. -/
theorem mem_tickets {counter : Counter} {bases : List String} {base : String} {seen : Int} :
    (base, seen) ∈ tickets counter bases ↔
      counter.count base ≤ seen ∧ seen < counter.count base + bases.count base := by
  induction bases generalizing counter with
  | nil =>
    simp only [tickets, List.not_mem_nil, List.count_nil, false_iff]
    omega
  | cons b bases ih =>
    simp only [tickets, List.mem_cons, Prod.mk.injEq, ih, Counter.count_add, List.count_cons]
    by_cases h : b = base
    · subst h
      simp only [if_true, beq_self_eq_true, true_and]
      omega
    · simp only [h, Ne.symm h, if_false, beq_eq_false_iff_ne.mpr h, false_and, false_or,
        Bool.false_eq_true]
      omega

/-- No ticket is given twice. -/
theorem tickets_nodup (counter : Counter) (bases : List String) :
    (tickets counter bases).Nodup := by
  induction bases generalizing counter with
  | nil => exact List.nodup_nil
  | cons base bases ih =>
    rw [tickets, List.nodup_cons]
    refine ⟨fun hmem => ?_, ih _⟩
    -- The number of a later ticket is larger: the counter has gone on.
    have hlow := (mem_tickets.mp hmem).1
    rw [Counter.count_add, if_pos rfl] at hlow
    omega

/-- The `k`-th base id is numbered by its count and by how often it came up before. -/
theorem getElem?_ids (counter : Counter) (bases : List String) (k : Nat) :
    (ids counter bases)[k]? = bases[k]?.map fun base =>
      numbered base (counter.count base + (bases.take k).count base) := by
  induction bases generalizing counter k with
  | nil => rfl
  | cons first rest ih =>
    rw [ids_cons]
    cases k with
    | zero => simp
    | succ k =>
      rw [List.getElem?_cons_succ, List.getElem?_cons_succ, ih]
      congr 1
      funext base
      rw [Counter.count_add, List.take_succ_cons, List.count_cons]
      by_cases h : first = base
      · subst h
        simp only [if_true, beq_self_eq_true]
        congr 1
        omega
      · simp [h]

/-! ## When ids are distinct -/

/-- No text among `bases` is another one with a number behind it that a repeat of it is given. -/
def Unambiguous (bases : List String) : Prop :=
  ∀ base (seen : Nat), 0 < seen → seen < bases.count base →
    base ++ "-" ++ toString seen ∉ bases

theorem numbered_natCast {seen : Nat} (h : 0 < seen) (base : String) :
    numbered base seen = base ++ "-" ++ toString seen := by
  rw [numbered, if_neg (by omega)]
  rfl

/-- A number has no hyphen, so the last hyphen of an id is the one in front of its number. -/
theorem hyphen_notMem_toString (n : Nat) : '-' ∉ (toString n).toList := by
  rw [Nat.toString_eq_repr, Nat.toList_repr]
  intro h
  exact absurd (Nat.isDigit_of_mem_toDigits (by decide) (by decide) h) (by decide)

/-- The last hyphen parts a base id from its number. -/
theorem append_number_inj {a b : String} {m n : Nat}
    (h : a ++ "-" ++ toString m = b ++ "-" ++ toString n) : a = b ∧ m = n := by
  have hchars := congrArg (fun s => s.toList.reverse) h
  simp only [String.toList_append, List.reverse_append] at hchars
  rw [show "-".toList.reverse = ['-'] from rfl] at hchars
  have hdigits (n : Nat) (cs : List Char) :
      ((toString n).toList.reverse ++ (['-'] ++ cs)).takeWhile (· != '-') =
        (toString n).toList.reverse := by
    exact Text.takeWhile_ne_append (mt List.mem_reverse.mp (hyphen_notMem_toString n)) cs
  have htake := congrArg (List.takeWhile (· != '-')) hchars
  rw [hdigits, hdigits] at htake
  have hnum : toString m = toString n := String.toList_injective (List.reverse_injective htake)
  rw [hnum, List.append_cancel_left_eq, List.append_cancel_left_eq] at hchars
  refine ⟨String.toList_injective (List.reverse_injective hchars), ?_⟩
  rw [Nat.toString_eq_repr, Nat.toString_eq_repr] at hnum
  have hval := congrArg (fun s => Nat.ofDigitChars 10 s.toList 0) hnum
  simpa only [Nat.toList_repr, Nat.ofDigitChars_ten_toDigits] using hval

/-- A base id with two numbers is two ids. -/
theorem numbered_natCast_inj {base : String} {m n : Nat}
    (h : numbered base m = numbered base n) : m = n := by
  have hne (k : Nat) (hk : 0 < k) : numbered base k ≠ numbered base 0 := by
    rw [numbered_natCast hk, numbered, if_pos rfl]
    intro heq
    have hlength := congrArg (fun s => s.toList.length) heq
    simp at hlength
  rcases Nat.eq_zero_or_pos m with rfl | hm <;> rcases Nat.eq_zero_or_pos n with rfl | hn
  · rfl
  · exact absurd h.symm (hne n hn)
  · exact absurd h (hne m hm)
  · rw [numbered_natCast hm, numbered_natCast hn] at h
    exact (append_number_inj h).2

/-- A ticket from a fresh counter has a natural number, smaller than the count of its base id. -/
theorem mem_tickets_nil {bases : List String} {base : String} {seen : Int} :
    (base, seen) ∈ tickets [] bases ↔ ∃ n : Nat, seen = n ∧ n < bases.count base := by
  rw [mem_tickets]
  constructor
  · rintro ⟨hlow, hhigh⟩
    simp only [Counter.count, Int.zero_add] at hlow hhigh
    exact ⟨seen.toNat, by omega, by omega⟩
  · rintro ⟨n, rfl, hn⟩
    simp only [Counter.count]
    omega

/-- **Ids are distinct exactly if no base id looks like a numbered repeat of another.** -/
theorem ids_nodup_iff (bases : List String) : (ids [] bases).Nodup ↔ Unambiguous bases := by
  rw [ids, List.nodup_map_iff_inj_on (tickets_nodup [] bases)]
  constructor
  · intro hinj base seen hpos hcount hmem
    -- An id written like a repeat would be given twice.
    have hfirst : (base, (seen : Int)) ∈ tickets [] bases := mem_tickets_nil.mpr ⟨seen, rfl, hcount⟩
    have hsecond : (base ++ "-" ++ toString seen, (0 : Int)) ∈ tickets [] bases :=
      mem_tickets_nil.mpr ⟨0, rfl, List.count_pos_iff.mpr hmem⟩
    have heq := hinj _ hfirst _ hsecond (numbered_natCast hpos base)
    simp only [Prod.mk.injEq] at heq
    omega
  · rintro hfree ⟨a, x⟩ hx ⟨b, y⟩ hy heq
    obtain ⟨m, rfl, hm⟩ := mem_tickets_nil.mp hx
    obtain ⟨n, rfl, hn⟩ := mem_tickets_nil.mp hy
    have ha : a ∈ bases := List.count_pos_iff.mp (by omega)
    have hb : b ∈ bases := List.count_pos_iff.mp (by omega)
    simp only at heq
    rcases Nat.eq_zero_or_pos m with rfl | hm0 <;> rcases Nat.eq_zero_or_pos n with rfl | hn0
    · simpa [numbered] using heq
    · -- `a` is written like the repeat `n` of `b`.
      rw [numbered_natCast hn0] at heq
      simp only [numbered, Int.natCast_zero, if_true] at heq
      exact absurd (heq ▸ ha) (hfree b n hn0 hn)
    · rw [numbered_natCast hm0] at heq
      simp only [numbered, Int.natCast_zero, if_true] at heq
      exact absurd (heq ▸ hb) (hfree a m hm0 hm)
    · rw [numbered_natCast hm0, numbered_natCast hn0] at heq
      obtain ⟨rfl, rfl⟩ := append_number_inj heq
      rfl

/-- A common beginning of all base ids plays no part in whether they are ambiguous. -/
theorem unambiguous_map_append (start : String) (names : List String) :
    Unambiguous (names.map (start ++ ·)) ↔ Unambiguous names := by
  have hinj : Function.Injective (start ++ · : String → String) :=
    fun _ _ h => (String.append_right_inj start).mp h
  have hnumber (name : String) (seen : Nat) :
      start ++ name ++ "-" ++ toString seen = start ++ (name ++ "-" ++ toString seen) := by
    simp only [String.append_assoc]
  constructor
  · intro hfree base seen hpos hcount hmem
    rw [← List.count_map_of_injective names _ hinj] at hcount
    refine hfree (start ++ base) seen hpos hcount ?_
    rw [hnumber]
    exact List.mem_map_of_mem hmem
  · intro hfree base seen hpos hcount hmem
    -- A base id that is counted comes from one of the names.
    have hbase : base ∈ names.map (start ++ ·) := List.count_pos_iff.mp (by omega)
    obtain ⟨name, -, rfl⟩ := List.mem_map.mp hbase
    rw [List.count_map_of_injective names _ hinj] at hcount
    rw [hnumber] at hmem
    exact hfree name seen hpos hcount ((List.mem_map_of_injective hinj).mp hmem)

end Quizmark.HeadingId
