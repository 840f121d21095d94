/-! Punycode: text beyond ASCII spelled in letters, digits and hyphens. The code points beyond ASCII
follow the others in ascending order, each as the distance from the one before, in a positional
notation whose thresholds adapt to the distances met. -/
namespace FeatureAudit.Idna.Punycode

def digitChar (d : Nat) : Char := if d < 26 then Char.ofNat (97 + d) else Char.ofNat (22 + d)

def digitValue? (c : Char) : Option Nat :=
  let n := c.toNat
  if 97 ≤ n && n ≤ 122 then some (n - 97)
  else if 65 ≤ n && n ≤ 90 then some (n - 65)
  else if 48 ≤ n && n ≤ 57 then some (n - 22)
  else none

/-- The threshold of a digit position, between 1 and 26. -/
def threshold (k bias : Nat) : Nat :=
  if k ≤ bias then 1 else if bias + 26 ≤ k then 26 else k - bias

theorem threshold_pos (k bias : Nat) : 1 ≤ threshold k bias := by
  unfold threshold
  split
  · omega
  · split <;> omega

def reduce (delta k : Nat) : Nat × Nat :=
  if 455 < delta then reduce (delta / 35) (k + 36) else (delta, k)
termination_by delta
decreasing_by exact Nat.div_lt_self (by omega) (by omega)

/-- The bias behind a distance, when `count` code points have been placed. -/
def adapt (delta count : Nat) (first : Bool) : Nat :=
  let d := if first then delta / 700 else delta / 2
  let (d, k) := reduce (d + d / count) 0
  k + 36 * d / (d + 38)

/-- A distance as digits. -/
def distance (bias k q : Nat) : List Char :=
  let t := threshold k bias
  if q < t then [digitChar q]
  else digitChar (t + (q - t) % (36 - t)) :: distance bias (k + 36) ((q - t) / (36 - t))
termination_by q
decreasing_by
  have h1 := threshold_pos k bias
  have h2 := Nat.div_le_self (q - threshold k bias) (36 - threshold k bias)
  simp only [t] at *
  omega

structure Progress where
  written : List Char
  delta : Nat
  bias : Nat
  placed : Nat

/-- One pass over the text, for one code point. -/
def pass (basic m : Nat) (p : Progress) (c : Char) : Progress :=
  if c.toNat < m then { p with delta := p.delta + 1 }
  else if c.toNat = m then
    { written := p.written ++ distance p.bias 36 p.delta
      delta := 0
      bias := adapt p.delta (p.placed + 1) (p.placed == basic)
      placed := p.placed + 1 }
  else p

/-- The spelling of a text. -/
def encode (cs : List Char) : List Char :=
  let basic := cs.filter fun c => c.toNat < 128
  let start := if basic.isEmpty then [] else basic ++ ['-']
  let points := ((cs.map Char.toNat).filter (128 ≤ ·)).eraseDups.mergeSort (· ≤ ·)
  (points.foldl (placeAll basic.length) (⟨start, 0, 72, basic.length⟩, 128)).1.written
where
  placeAll (basic : Nat) (reached : Progress × Nat) (m : Nat) : Progress × Nat :=
    let p := reached.1
    let p := cs.foldl (pass basic m) { p with delta := p.delta + (m - reached.2) * (p.placed + 1) }
    ({ p with delta := p.delta + 1 }, m + 1)

/-- The value of the digits of one distance, and what follows them. -/
def readDistance (bias k i w : Nat) : List Char → Option (Nat × List Char)
  | [] => none
  | c :: r =>
    match digitValue? c with
    | none => none
    | some d =>
      let t := threshold k bias
      if d < t then some (i + d * w, r) else readDistance bias (k + 36) (i + d * w) (w * (36 - t)) r

theorem readDistance_length {bias k i w n : Nat} {s r : List Char}
    (h : readDistance bias k i w s = some (n, r)) : r.length < s.length := by
  induction s generalizing k i w with
  | nil => simp [readDistance] at h
  | cons c t ih =>
    unfold readDistance at h
    split at h
    · simp at h
    · simp only at h
      split at h
      · simp only [Option.some.injEq, Prod.mk.injEq] at h
        simp [← h.2]
      · have := ih h
        simp only [List.length_cons]
        omega

/-- Places the code points that the digits tell of. `n` is the code point reached and `i` the
position. -/
def place (out : List Char) (n i bias : Nat) (s : List Char) : Option (List Char) :=
  match s with
  | [] => some out
  | c :: r =>
    match h : readDistance bias 36 i 1 (c :: r) with
    | none => none
    | some (j, t) =>
      have := readDistance_length h
      let count := out.length + 1
      let m := n + j / count
      let spot := j % count
      if m < 0x110000 ∧ ¬(0xD800 ≤ m ∧ m < 0xE000) then
        place (out.take spot ++ Char.ofNat m :: out.drop spot) m (spot + 1)
          (adapt (j - i) count (i == 0)) t
      else none
termination_by s.length
decreasing_by all_goals (simp only [List.length_cons] at *; omega)

/-- The text of a spelling. -/
def decode? (cs : List Char) : Option (List Char) :=
  let tail := (cs.reverse.takeWhile (· != '-')).reverse
  let basic := (cs.take (cs.length - tail.length)).dropLast
  if basic.isEmpty then place [] 128 0 72 cs
  else if basic.all (·.toNat < 128) then place basic 128 0 72 tail
  else none

end FeatureAudit.Idna.Punycode
