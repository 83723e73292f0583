/-!
# Punycode

A label with characters beyond ASCII is coded as its ASCII characters and a series of numbers. Such a text is built
by insertions, characters with lower code points first, and each number says how far the next insertion is from the
one before: places are counted through the text as it is at that time, once for every code point.

The digits of a number have bases that depend on its size and on the numbers before it, so that numbers of about
the same size stay short and no mark is needed between them. **Reading back**: the numbers that are read from the
digits of a series are that series (`numbers?_digitsOfAll`).
-/

namespace AckDesk.Url.Punycode

/-! ## Insertions -/

/-- The first code point that has to be inserted. -/
def firstCode : Nat := 128

/-- The characters to insert in `cs`, each with the number of characters in front of it at that time. -/
def insertions (cs : List Char) : List (Char × Nat) :=
  let beyond := (cs.zipIdx.filter fun p => firstCode ≤ p.1.toNat).mergeSort fun p q => p.1.toNat ≤ q.1.toNat
  beyond.map fun p => (p.1, (cs.take p.2).countP (· ≤ p.1))

/-- The distances of insertions, in a text of `size` characters and counted from a place for a code point. -/
def distances (size code place : Nat) : List (Char × Nat) → List Nat
  | [] => []
  | (c, k) :: rest => ((c.toNat - code) * (size + 1) + k - place) :: distances (size + 1) c.toNat (k + 1) rest

/-- The text after insertions at such distances, if each inserts a character. -/
def insertAt? (text : List Char) (code place : Nat) : List Nat → Option (List Char)
  | [] => some text
  | d :: ds =>
    let c := code + (place + d) / (text.length + 1)
    let k := (place + d) % (text.length + 1)
    if c.isValidChar then insertAt? (text.take k ++ .ofNat c :: text.drop k) c (k + 1) ds else none

/-! ## Numbers -/

/-- The least value of a digit that another one follows. -/
def threshold (bias place : Nat) : Nat := min 26 (max 1 (36 * (place + 1) - bias))

/-- A threshold is positive, so that a digit below it ends a number. -/
theorem threshold_pos (bias place : Nat) : 1 ≤ threshold bias place := by
  unfold threshold
  omega

/-- A threshold leaves digits above it, so that a number goes on as long as it must. -/
theorem threshold_le (bias place : Nat) : threshold bias place ≤ 26 := by
  unfold threshold
  omega

/-- The bias that suits numbers like `n`, after `base` was added for larger ones. -/
def biasFor (n base : Nat) : Nat :=
  if 455 < n then biasFor (n / 35) (base + 36) else base + 36 * n / (n + 38)
termination_by n

/-- The bias after a distance to the `count`-th character of a text. -/
def nextBias (distance count : Nat) (isFirst : Bool) : Nat :=
  let n := distance / if isFirst then 700 else 2
  biasFor (n + n / count) 0

def firstBias : Nat := 72

def digits (bias place n : Nat) : List Nat :=
  let t := threshold bias place
  if n < t then [n] else (t + (n - t) % (36 - t)) :: digits bias (place + 1) ((n - t) / (36 - t))
termination_by n
decreasing_by
  have := threshold_pos bias place
  exact Nat.lt_of_le_of_lt (Nat.div_le_self _ _) (by omega)

/-- The digits of distances to characters of a text, the first of them to the `count`-th. -/
def digitsOfAll (bias count : Nat) (isFirst : Bool) : List Nat → List Nat
  | [] => []
  | d :: ds => digits bias 0 d ++ digitsOfAll (nextBias d count isFirst) (count + 1) false ds

/-- A series of numbers that is read. -/
structure Reading where
  bias : Nat := firstBias
  /-- The place that the next digit has in its number. -/
  place : Nat := 0
  /-- What the next digit is multiplied by. -/
  weight : Nat := 1
  /-- The digits of the number so far. -/
  sum : Nat := 0
  count : Nat
  isFirst : Bool := true

/-- The reading after a number is complete. -/
def Reading.after (r : Reading) (n : Nat) : Reading :=
  { bias := nextBias n r.count r.isFirst, count := r.count + 1, isFirst := false }

/-- The numbers that digits write. -/
def numbers? (r : Reading) : List Nat → Option (List Nat)
  | [] => if r.place = 0 then some [] else none
  | d :: ds =>
    let sum := r.sum + d * r.weight
    let t := threshold r.bias r.place
    if d < t then (numbers? (r.after sum) ds).map (sum :: ·)
    else numbers? { r with place := r.place + 1, weight := r.weight * (36 - t), sum } ds

/-- The digits of a number are read back in front of others, at any place and with any sum so far. -/
theorem numbers?_digits_append {r : Reading} {n : Nat} {ds : List Nat} :
    numbers? r (digits r.bias r.place n ++ ds) =
      (numbers? (r.after (r.sum + n * r.weight)) ds).map ((r.sum + n * r.weight) :: ·) := by
  induction n using Nat.strongRecOn generalizing r with
  | ind n ih =>
    have hpos := threshold_pos r.bias r.place
    have hle := threshold_le r.bias r.place
    rw [digits]
    split
    · next h => simp [numbers?, h]
    · next h =>
      simp only [List.cons_append, numbers?]
      rw [if_neg (by omega), ih _ (Nat.lt_of_le_of_lt (Nat.div_le_self _ _) (by omega)) (r := { r with
        place := r.place + 1, weight := _, sum := _ })]
      generalize threshold r.bias r.place = t at *
      have key := Nat.mod_add_div (n - t) (36 - t)
      have total : r.sum + (t + (n - t) % (36 - t)) * r.weight + (n - t) / (36 - t) * (r.weight * (36 - t)) =
          r.sum + n * r.weight := by
        have : n = t + (n - t) % (36 - t) + (36 - t) * ((n - t) / (36 - t)) := by omega
        conv => rhs; rw [this]
        grind
      rw [total]
      rfl

/-- The digits of all numbers are read back, the bias adapted after each as it was when they were written. -/
theorem numbers?_digitsOfAll {bias count : Nat} {isFirst : Bool} {ds : List Nat} :
    numbers? { bias, count, isFirst } (digitsOfAll bias count isFirst ds) = some ds := by
  induction ds generalizing bias count isFirst with
  | nil => rfl
  | cons d ds ih =>
    rw [digitsOfAll, numbers?_digits_append (r := { bias, count, isFirst })]
    simp [Reading.after, ih]

def digitChar (d : Nat) : Char := .ofNat (if d < 26 then 97 + d else 22 + d)

def digit? (c : Char) : Option Nat :=
  if c.isLower then some (c.toNat - 97) else if c.isDigit then some (c.toNat - 22) else none

/-! ## Labels -/

def encode (cs : List Char) : List Char :=
  let basic := cs.filter (·.toNat < firstCode)
  let numbers := digitsOfAll firstBias (basic.length + 1) true (distances basic.length firstCode 0 (insertions cs))
  (if basic.isEmpty then [] else basic ++ ['-']) ++ numbers.map digitChar

def decode? (cs : List Char) : Option (List Char) :=
  let numbers := (cs.reverse.takeWhile (· != '-')).reverse
  let basic := cs.take (cs.length - numbers.length - 1)
  if cs.head? = some '-' ∧ basic = [] ∨ basic.any (firstCode ≤ ·.toNat) then none
  else
    match numbers.mapM digit? with
    | none => none
    | some ds => (numbers? { count := basic.length + 1 } ds).bind (insertAt? basic firstCode 0)

end AckDesk.Url.Punycode
