/-!
Registers by address. Main statement: a read tells what was last written to the same address, and zero
where nothing was written.
-/

namespace RadioBoard

structure RegisterFile (κ ν : Type) where
  /-- The addresses that were written, each once with its contents. -/
  written : List (κ × ν) := []

namespace RegisterFile

variable {κ ν : Type} [BEq κ]

def read [OfNat ν 0] (r : RegisterFile κ ν) (k : κ) : ν := (r.written.lookup k).getD 0

def write (r : RegisterFile κ ν) (k : κ) (v : ν) : RegisterFile κ ν :=
  ⟨(k, v) :: r.written.filter (·.1 != k)⟩

/-- Writes a list of addresses with their contents, the first one first. -/
def writeAll (r : RegisterFile κ ν) (entries : List (κ × ν)) : RegisterFile κ ν :=
  entries.foldl (fun r e => r.write e.1 e.2) r

variable [LawfulBEq κ]

theorem lookup_filter_ne {j k : κ} (h : j ≠ k) (l : List (κ × ν)) :
    (l.filter (·.1 != k)).lookup j = l.lookup j := by
  induction l with
  | nil => rfl
  | cons e l ih =>
    obtain ⟨i, v⟩ := e
    by_cases hi : i = k
    · subst hi
      have hj : (j == i) = false := by simpa using h
      simp [List.lookup_cons, hj, ih]
    · cases hj : j == i <;> simp [List.lookup_cons, hi, hj, ih]

theorem read_write_self [OfNat ν 0] (r : RegisterFile κ ν) (k : κ) (v : ν) :
    (r.write k v).read k = v := by
  simp [write, read]

theorem read_write_of_ne [OfNat ν 0] {j k : κ} (h : j ≠ k) (r : RegisterFile κ ν) (v : ν) :
    (r.write k v).read j = r.read j := by
  have hj : (j == k) = false := by simpa using h
  simp [write, read, List.lookup_cons, hj, lookup_filter_ne h]

end RegisterFile
end RadioBoard
