import FeatureAudit.Binary64

/-! JSON values. An object keeps its members in order; a member that is given again keeps its place
and takes the later value. -/
namespace FeatureAudit

/-- A number is an integer as long as it is written as one and fits 64 bits, signed or unsigned. -/
inductive Number where
  | int (n : Int)
  | float (x : Binary64)
  deriving DecidableEq, Repr

inductive Json where
  | null
  | bool (b : Bool)
  | number (n : Number)
  | text (s : String)
  | list (items : List Json)
  | object (members : List (String × Json))
  deriving Repr

namespace Json

/-- The members of an object, in order. -/
abbrev Members := List (String × Json)

mutual

def decEq : (a b : Json) → Decidable (a = b)
  | .null, .null => isTrue rfl
  | .bool a, .bool b => decidable_of_iff (a = b) (by simp)
  | .number a, .number b => decidable_of_iff (a = b) (by simp)
  | .text a, .text b => decidable_of_iff (a = b) (by simp)
  | .list a, .list b =>
    have := decEqList a b
    decidable_of_iff (a = b) (by simp)
  | .object a, .object b =>
    have := decEqMembers a b
    decidable_of_iff (a = b) (by simp)
  | .null, .bool _ | .null, .number _ | .null, .text _ | .null, .list _ | .null, .object _
  | .bool _, .null | .bool _, .number _ | .bool _, .text _ | .bool _, .list _ | .bool _, .object _
  | .number _, .null | .number _, .bool _ | .number _, .text _ | .number _, .list _
  | .number _, .object _ | .text _, .null | .text _, .bool _ | .text _, .number _
  | .text _, .list _ | .text _, .object _ | .list _, .null | .list _, .bool _
  | .list _, .number _ | .list _, .text _ | .list _, .object _ | .object _, .null
  | .object _, .bool _ | .object _, .number _ | .object _, .text _ | .object _, .list _ =>
    isFalse nofun

def decEqList : (a b : List Json) → Decidable (a = b)
  | [], [] => isTrue rfl
  | x :: xs, y :: ys =>
    have := decEq x y
    have := decEqList xs ys
    decidable_of_iff (x = y ∧ xs = ys) (by simp)
  | [], _ :: _ | _ :: _, [] => isFalse nofun

def decEqMembers : (a b : Members) → Decidable (a = b)
  | [], [] => isTrue rfl
  | (k, x) :: xs, (l, y) :: ys =>
    have := decEq x y
    have := decEqMembers xs ys
    decidable_of_iff (k = l ∧ x = y ∧ xs = ys) (by simp [and_assoc])
  | [], _ :: _ | _ :: _, [] => isFalse nofun

end

instance : DecidableEq Json := decEq

/-- Sets a member: at its place if there is one of that name, else at the end. -/
def insert (key : String) (value : Json) : Members → Members
  | [] => [(key, value)]
  | (k, v) :: r => if k = key then (key, value) :: r else (k, v) :: insert key value r

/-- The members of an object from what was written, in order. -/
def ofWritten (written : Members) : Members :=
  written.foldl (fun ms kv => insert kv.1 kv.2 ms) []

/-- The value of a member of an object. -/
def get? (j : Json) (key : String) : Option Json :=
  match j with
  | .object ms => ms.lookup key
  | _ => none

def asText? : Json → Option String
  | .text s => some s
  | _ => none

def asObject? : Json → Option Members
  | .object ms => some ms
  | _ => none

theorem insert_of_notMem {key : String} {value : Json} {ms : Members}
    (h : key ∉ ms.map Prod.fst) : insert key value ms = ms ++ [(key, value)] := by
  induction ms with
  | nil => rfl
  | cons kv r ih =>
    simp only [List.map_cons, List.mem_cons, not_or] at h
    simp [insert, Ne.symm h.1, ih h.2]

theorem keys_insert (key : String) (value : Json) (ms : Members) :
    (insert key value ms).map Prod.fst =
      if key ∈ ms.map Prod.fst then ms.map Prod.fst else ms.map Prod.fst ++ [key] := by
  induction ms with
  | nil => simp [insert]
  | cons kv r ih =>
    by_cases h : kv.1 = key
    · simp [insert, h]
    · simp only [insert, h, if_false, List.map_cons, ih, List.mem_cons, Ne.symm h, false_or]
      split <;> simp

/-- Setting members keeps the names distinct. -/
theorem nodup_insert {key : String} {value : Json} {ms : Members}
    (h : (ms.map Prod.fst).Nodup) : ((insert key value ms).map Prod.fst).Nodup := by
  rw [keys_insert]
  split
  · exact h
  · next hk =>
    refine List.nodup_append.2 ⟨h, by simp, fun a ha b hb => ?_⟩
    rw [List.mem_singleton.1 hb]
    exact fun he => hk (he ▸ ha)

theorem nodup_ofWritten (written : Members) : ((ofWritten written).map Prod.fst).Nodup := by
  have step : ∀ (ws acc : Members), (acc.map Prod.fst).Nodup →
      ((ws.foldl (fun ms kv => insert kv.1 kv.2 ms) acc).map Prod.fst).Nodup := by
    intro ws
    induction ws with
    | nil => exact fun _ h => h
    | cons kv r ih => exact fun acc h => ih _ (nodup_insert h)
  exact step written [] (by simp)

/-- Names that are distinct already stand as they were written. -/
theorem ofWritten_of_nodup {written : Members} (h : (written.map Prod.fst).Nodup) :
    ofWritten written = written := by
  have step : ∀ (ws acc : Members), ((acc ++ ws).map Prod.fst).Nodup →
      ws.foldl (fun ms kv => insert kv.1 kv.2 ms) acc = acc ++ ws := by
    intro ws
    induction ws with
    | nil => simp
    | cons kv r ih =>
      intro acc hn
      have hk : kv.1 ∉ acc.map Prod.fst := by
        simp only [List.map_append, List.map_cons, List.nodup_append] at hn
        intro hm
        exact hn.2.2 kv.1 hm kv.1 (by simp) rfl
      rw [List.foldl_cons, insert_of_notMem hk, ih _ (by simpa using hn)]
      simp
  simpa [ofWritten] using step written [] (by simpa using h)

end Json
end FeatureAudit
