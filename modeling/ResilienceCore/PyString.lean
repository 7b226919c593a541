import ResilienceCore.Python
import Mathlib.Data.Nat.Digits

/-!
# Python `str` operations and `int()`

The discovery client's parsers read Vault strings with `in`, `startswith`,
`rsplit(':', 1)`, `replace(old, '')`, `split('/')[0]` and `int()`.  Each is
written here on the string's characters.

`int(s)` in base 10 is CPython 3.12's: whitespace around the literal, an
optional sign, ASCII digits with single underscores between them, and at most
4300 digits.  `int()` also reads decimal digits of other scripts; those are
not modelled, and such a string is refused here.
-/

namespace ResilienceCore

/-- `c.isspace()`, the whitespace `int()` strips around a literal. -/
def isPySpace (c : Char) : Bool :=
  decide (9 ≤ c.toNat ∧ c.toNat ≤ 13 ∨ 28 ≤ c.toNat ∧ c.toNat ≤ 32 ∨ c.toNat = 133 ∨ c.toNat = 160 ∨
    c.toNat = 5760 ∨ 8192 ≤ c.toNat ∧ c.toNat ≤ 8202 ∨ c.toNat = 8232 ∨ c.toNat = 8233 ∨ c.toNat = 8239 ∨
    c.toNat = 8287 ∨ c.toNat = 12288)

def isAsciiDigit (c : Char) : Bool := decide (48 ≤ c.toNat ∧ c.toNat ≤ 57)

/-- The run of digits and underscores that `int()` reads, given whether the
character before was an underscore: the digits' values in order and what
follows, or `none` for an underscore that does not stand between two digits. -/
def digitRunAux : Bool → List Char → Option (List ℕ × List Char)
  | afterUnderscore, c :: cs =>
      if isAsciiDigit c then (digitRunAux false cs).map fun run => ((c.toNat - 48) :: run.1, run.2)
      else if c = '_' then if afterUnderscore then none else digitRunAux true cs
      else if afterUnderscore then none else some ([], c :: cs)
  | afterUnderscore, [] => if afterUnderscore then none else some ([], [])

def digitRun : List Char → Option (List ℕ × List Char)
  | '_' :: _ => none
  | cs => digitRunAux false cs

def splitSign : List Char → Bool × List Char
  | '+' :: rest => (false, rest)
  | '-' :: rest => (true, rest)
  | rest => (false, rest)

def decimalValue (digits : List ℕ) : ℕ := digits.foldl (fun value d => 10 * value + d) 0

def pyStartsWith (s pre : String) : Bool := pre.toList.isPrefixOf s.toList

/-- `a <= b` on `str`: the first code point that differs decides, and a
prefix comes first. -/
def pyStrLE : List Char → List Char → Bool
  | [], _ => true
  | _ :: _, [] => false
  | c :: cs, d :: ds => if c.toNat = d.toNat then pyStrLE cs ds else c.toNat < d.toNat

/-- `s.rsplit(sep, 1)` unpacked into two names: what stands before the last
`sep` and what follows it.  Without a `sep` there is one part, and the
unpacking raises. -/
def rsplitOnce (sep : Char) (s : String) : Except PyException (String × String) :=
  match s.toList.reverse.dropWhile (· != sep) with
  | [] => .error ⟨"ValueError", "not enough values to unpack (expected 2, got 1)"⟩
  | _ :: before => .ok (String.mk before.reverse, String.mk (s.toList.reverse.takeWhile (· != sep)).reverse)

/-- What `replace(old, '')` keeps of `l` when its first `skip` characters end an
occurrence of `old` just removed.  Occurrences go from the left, without
overlap. -/
def removeAllAux (old : List Char) : ℕ → List Char → List Char
  | _, [] => []
  | skip + 1, _ :: cs => removeAllAux old skip cs
  | 0, c :: cs =>
      if old.isPrefixOf (c :: cs) then removeAllAux old (old.length - 1) cs
      else c :: removeAllAux old 0 cs

def pyRemoveAll (s old : String) : String :=
  if old = "" then s else String.mk (removeAllAux old.toList 0 s.toList)

def firstField (s : String) (sep : Char) : String := String.mk (s.toList.takeWhile (· != sep))

def pyEncode (s : String) : List UInt8 := s.toList.flatMap String.utf8EncodeChar

def base64Digit (n : ℕ) : Char :=
  "ABCDEFGHIJKLMNOPQRSTUVWXYZabcdefghijklmnopqrstuvwxyz0123456789+/".toList.getD n '='

def b64encodeAux : List ℕ → List Char
  | a :: b :: c :: rest =>
      base64Digit (a / 4) :: base64Digit (a % 4 * 16 + b / 16) :: base64Digit (b % 16 * 4 + c / 64) ::
        base64Digit (c % 64) :: b64encodeAux rest
  | [a, b] => [base64Digit (a / 4), base64Digit (a % 4 * 16 + b / 16), base64Digit (b % 16 * 4), '=']
  | [a] => [base64Digit (a / 4), base64Digit (a % 4 * 16), '=', '=']
  | [] => []

def b64encode (bytes : List UInt8) : String := String.mk (b64encodeAux (bytes.map UInt8.toNat))

def maxStrDigits : ℕ := 4300

/-- `int(s)` on ASCII digits; `int()` also reads the other Unicode decimal
digits, which this refuses. -/
def pyInt (s : String) : Except PyException ℤ :=
  let invalid : PyException := ⟨"ValueError", "invalid literal for int() with base 10: " ++ pyReprStr s⟩
  let signed := splitSign (s.toList.dropWhile isPySpace)
  match digitRun signed.2 with
  | some (digits, rest) =>
      if digits ≠ [] ∧ rest.all isPySpace = true then
        if digits.length ≤ maxStrDigits then
          .ok (if signed.1 then -(decimalValue digits : ℤ) else decimalValue digits)
        else .error ⟨"ValueError", "Exceeds the limit (" ++ toString maxStrDigits ++
          " digits) for integer string conversion: value has " ++
          toString digits.length ++ " digits; use sys.set_int_max_str_digits() to increase the limit"⟩
      else .error invalid
  | none => .error invalid

/-! ## `int(str(n))` -/

theorem decimalValue_concat (digits : List ℕ) (d : ℕ) :
    decimalValue (digits ++ [d]) = 10 * decimalValue digits + d := by
  simp [decimalValue, List.foldl_append]

theorem digitChar_isAsciiDigit : ∀ d : Fin 10,
    isAsciiDigit (Nat.digitChar d) ∧ (Nat.digitChar d).toNat - 48 = d := by
  decide

theorem toDigitsCore_spec (fuel : ℕ) :
    ∀ (m : ℕ) (ds : List Char), m < fuel → ∃ l, Nat.toDigitsCore 10 fuel m ds = l ++ ds ∧ l ≠ [] ∧
      (∀ c ∈ l, isAsciiDigit c) ∧ decimalValue (l.map (·.toNat - 48)) = m := by
  induction fuel with
  | zero => intro m ds h; omega
  | succ fuel ih =>
      intro m ds h
      have hd := digitChar_isAsciiDigit ⟨m % 10, Nat.mod_lt m (by norm_num)⟩
      by_cases hm : m / 10 = 0
      · refine ⟨[Nat.digitChar (m % 10)], by simp [Nat.toDigitsCore, hm], by simp, by simpa using hd.1, ?_⟩
        simp only [List.map_cons, List.map_nil, decimalValue, List.foldl_cons, List.foldl_nil, hd.2]
        omega
      · obtain ⟨l, hl, hne, hdig, hval⟩ := ih (m / 10) (Nat.digitChar (m % 10) :: ds) (by omega)
        refine ⟨l ++ [Nat.digitChar (m % 10)], by simp [Nat.toDigitsCore, hm, hl], by simp, ?_, ?_⟩
        · simpa [or_imp, forall_and] using ⟨hdig, hd.1⟩
        · simp only [List.map_append, List.map_cons, List.map_nil, decimalValue_concat, hval, hd.2]
          omega

theorem digitRunAux_of_isAsciiDigit : ∀ l : List Char, (∀ c ∈ l, isAsciiDigit c) →
    digitRunAux false l = some (l.map (·.toNat - 48), [])
  | [], _ => rfl
  | c :: l, h => by
      rw [digitRunAux, if_pos (h c (List.mem_cons_self _ _)),
        digitRunAux_of_isAsciiDigit l fun c' hc' => h c' (List.mem_cons_of_mem _ hc')]
      rfl

theorem digitRun_of_isAsciiDigit {c : Char} (hc : isAsciiDigit c) (rest : List Char) :
    digitRun (c :: rest) = digitRunAux false (c :: rest) := by
  unfold digitRun
  split
  · rename_i h; simp only [List.cons.injEq] at h; rw [h.1] at hc; exact absurd hc (by decide)
  · rfl

theorem splitSign_of_isAsciiDigit {c : Char} (hc : isAsciiDigit c) (rest : List Char) :
    splitSign (c :: rest) = (false, c :: rest) := by
  unfold splitSign
  split <;> rename_i h <;> simp only [List.cons.injEq] at h <;> first | rfl | (rw [h.1] at hc; exact absurd hc (by decide))

theorem isPySpace_of_isAsciiDigit {c : Char} (hc : isAsciiDigit c) : isPySpace c = false := by
  simp only [isAsciiDigit, decide_eq_true_eq] at hc
  simp only [isPySpace, decide_eq_false_iff_not]
  omega

theorem pyInt_digits (negative : Bool) {l : List Char} (hne : l ≠ []) (hdig : ∀ c ∈ l, isAsciiDigit c)
    (hlen : l.length ≤ maxStrDigits) :
    pyInt (String.mk ((if negative then ['-'] else []) ++ l)) =
      .ok (if negative then -(decimalValue (l.map (·.toNat - 48)) : ℤ) else decimalValue (l.map (·.toNat - 48))) := by
  obtain ⟨c, l', rfl⟩ := List.exists_cons_of_ne_nil hne
  have hc := hdig c (List.mem_cons_self _ _)
  have hsigned : splitSign (((if negative then ['-'] else []) ++ c :: l').dropWhile isPySpace) =
      (negative, c :: l') := by
    cases negative
    · simp [List.dropWhile_cons, isPySpace_of_isAsciiDigit hc, splitSign_of_isAsciiDigit hc]
    · rfl
  have hrun := (digitRun_of_isAsciiDigit hc l').trans (digitRunAux_of_isAsciiDigit _ hdig)
  have hlen' : l'.length + 1 ≤ maxStrDigits := hlen
  simp only [pyInt, String.toList, hsigned, hrun]
  simp [hlen']

theorem repr_spec (m : ℕ) : (Nat.repr m).toList ≠ [] ∧ (∀ c ∈ (Nat.repr m).toList, isAsciiDigit c) ∧
    decimalValue ((Nat.repr m).toList.map (·.toNat - 48)) = m := by
  obtain ⟨l, hl, hrest⟩ := toDigitsCore_spec (m + 1) m [] (by omega)
  have : (Nat.repr m).toList = l := by simpa [Nat.repr, Nat.toDigits] using hl
  rw [this]
  exact hrest

theorem toString_int_chars (n : ℤ) : ∀ c ∈ (toString n).toList, isAsciiDigit c = true ∨ c = '-' := by
  cases n with
  | ofNat m => exact fun c hc => .inl ((repr_spec m).2.1 c hc)
  | negSucc m =>
      intro c hc
      rcases List.mem_cons.1 (show c ∈ '-' :: (Nat.repr (m + 1)).toList from hc) with rfl | h
      · exact .inr rfl
      · exact .inl ((repr_spec (m + 1)).2.1 c h)

theorem toString_int_ne_nil (n : ℤ) : (toString n).toList ≠ [] := by
  cases n with
  | ofNat m => exact (repr_spec m).1
  | negSucc m => exact List.cons_ne_nil _ _

theorem pyInt_toString (n : ℤ) (h : n.natAbs < 10 ^ maxStrDigits) : pyInt (toString n) = .ok n := by
  have hdigits (m : ℕ) (hm : m < 10 ^ maxStrDigits) (negative : Bool) :=
    pyInt_digits negative (repr_spec m).1 (repr_spec m).2.1 (Nat.repr_length m maxStrDigits (by decide) hm)
  cases n with
  | ofNat m =>
      have := hdigits m h false
      rw [(repr_spec m).2.2] at this
      exact this
  | negSucc m =>
      have := hdigits (m + 1) h true
      rw [(repr_spec (m + 1)).2.2] at this
      exact this

/-! ## `startswith`, `rsplit`, `replace` and `split` on the strings the parsers meet -/

@[simp] theorem toList_append (s t : String) : (s ++ t).toList = s.toList ++ t.toList := String.data_append s t

theorem isPrefixOf_append_cons {c : Char} :
    ∀ {pre : List Char} (h r : List Char), c ∉ pre → pre.isPrefixOf (h ++ c :: r) = pre.isPrefixOf h
  | [], _, _, _ => by simp [List.isPrefixOf]
  | a :: pre, [], r, hc => by
      have : a ≠ c := fun h => hc (h ▸ List.mem_cons_self a pre)
      simp [List.isPrefixOf, this]
  | a :: pre, b :: h, r, hc => by
      show (a == b && pre.isPrefixOf (h ++ c :: r)) = (a == b && pre.isPrefixOf h)
      rw [isPrefixOf_append_cons h r fun h' => hc (List.mem_cons_of_mem a h')]

theorem rsplitOnce_append {sep : Char} {before after : List Char} (h : sep ∉ after) :
    rsplitOnce sep (String.mk (before ++ sep :: after)) = .ok (String.mk before, String.mk after) := by
  have hne : ∀ c ∈ after.reverse, (c != sep) = true := fun c hc =>
    bne_iff_ne.2 fun he => h (he ▸ List.mem_reverse.1 hc)
  simp [rsplitOnce, List.reverse_append, List.dropWhile_append_of_pos hne,
    List.takeWhile_append_of_pos hne]

theorem not_suffix_of_getLast? {x l : List Char} {c : Char} (h : l.getLast? ≠ some c) : ¬ x ++ [c] <:+ l := by
  rintro ⟨t, rfl⟩
  simp at h

theorem takeWhile_prefix_eq {α : Type} {p : α → Bool} :
    ∀ {l₁ l₂ : List α}, l₁ <+: l₂ → (∃ a ∈ l₁, p a = false) → l₁.takeWhile p = l₂.takeWhile p
  | [], _, _, ⟨_, ha, _⟩ => absurd ha (List.not_mem_nil _)
  | a :: l₁, l₂, hpre, ⟨b, hb, hpb⟩ => by
      obtain ⟨l₂, rfl⟩ : ∃ l₂', l₂ = a :: l₂' := by
        obtain ⟨t, rfl⟩ := hpre; exact ⟨l₁ ++ t, rfl⟩
      by_cases hpa : p a
      · have hb' : b ∈ l₁ := (List.mem_cons.1 hb).resolve_left fun h => by simp_all
        simp only [List.takeWhile_cons, hpa, if_true]
        rw [takeWhile_prefix_eq (List.cons_prefix_cons.1 hpre).2 ⟨b, hb', hpb⟩]
      · simp [List.takeWhile_cons, hpa]

theorem removeAllAux_skip (old : List Char) :
    ∀ (pre l : List Char), removeAllAux old pre.length (pre ++ l) = removeAllAux old 0 l
  | [], _ => rfl
  | _ :: pre, l => removeAllAux_skip old pre l

theorem removeAllAux_self_append {old : List Char} (hne : old ≠ []) (l : List Char) :
    removeAllAux old 0 (old ++ l) = removeAllAux old 0 l := by
  obtain ⟨c, old', rfl⟩ := List.exists_cons_of_ne_nil hne
  have hpre : (c :: old').isPrefixOf (c :: (old' ++ l)) :=
    List.isPrefixOf_iff_prefix.2 (List.prefix_append (c :: old') l)
  rw [List.cons_append, removeAllAux, if_pos hpre]
  exact removeAllAux_skip _ old' l

theorem removeAllAux_of_not_mem {old : List Char} {a : Char} (ha : a ∈ old) :
    ∀ {l : List Char}, a ∉ l → removeAllAux old 0 l = l
  | [], _ => rfl
  | c :: l, hl => by
      have hpre : old.isPrefixOf (c :: l) = false := by
        rw [Bool.eq_false_iff, ne_eq, List.isPrefixOf_iff_prefix]
        exact fun h => hl (h.subset ha)
      rw [removeAllAux, if_neg (by simp [hpre]),
        removeAllAux_of_not_mem ha fun h => hl (List.mem_cons_of_mem c h)]

theorem takeWhile_removeAllAux {old : List Char} (hslash : '/' ∈ old) {path : List Char}
    (hpath : path.takeWhile (· != '/') = []) :
    ∀ {field : List Char}, '/' ∉ field → ¬ old.takeWhile (· != '/') <:+ field →
      (removeAllAux old 0 (field ++ path)).takeWhile (· != '/') = field
  | [], _, hend => by
      match path, hpath with
      | [], _ => rfl
      | c :: path, hc =>
          obtain rfl : c = '/' := by simpa [List.takeWhile_cons] using hc
          have hpre : old.isPrefixOf ('/' :: path) = false := by
            rw [Bool.eq_false_iff, ne_eq, List.isPrefixOf_iff_prefix]
            intro h
            exact hend (by rw [takeWhile_prefix_eq h ⟨'/', hslash, by simp⟩]; simp)
          simp [removeAllAux, hpre]
  | c :: field, hfield, hend => by
      have hc : (c != '/') = true := bne_iff_ne.2 fun h => hfield (h ▸ List.mem_cons_self _ _)
      have hpre : old.isPrefixOf (c :: (field ++ path)) = false := by
        rw [Bool.eq_false_iff, ne_eq, List.isPrefixOf_iff_prefix, ← List.cons_append]
        intro h
        refine hend ?_
        rw [takeWhile_prefix_eq h ⟨'/', hslash, by simp⟩, List.takeWhile_append_of_pos, hpath,
          List.append_nil]
        intro a ha
        exact bne_iff_ne.2 fun h => hfield (h ▸ ha)
      rw [List.cons_append, removeAllAux, if_neg (by simp [hpre]), List.takeWhile_cons, if_pos hc,
        takeWhile_removeAllAux hslash hpath (fun h => hfield (List.mem_cons_of_mem c h))
          fun h => hend (h.trans (List.suffix_cons c field))]

end ResilienceCore
