/-!
# How written text comes through

Text that is written to a file does not reach it at once. It is gathered as long as there is less
than `gatherLimit` of it, and handed over as a whole; what is handed over is held back once more as
long as it fits into `holdLimit`. So the file grows in portions, and someone who reads it meanwhile
sees a beginning of what was written.

All sizes are in bytes. A flow only says how many bytes are where: `total_write` says that none is
lost, and `stored_le_stored_write` that the file never shrinks.
-/

namespace InsertScript

/-- How far what was written has come. -/
structure Flow where
  gathered : Nat := 0
  held : Nat := 0
  /-- The number of bytes that have reached the file. -/
  stored : Nat := 0
deriving DecidableEq, Repr

namespace Flow

/-- The size from which on gathered text is handed over. -/
def gatherLimit : Nat := 8192

/-- The largest size that is held back. -/
def holdLimit : Nat := 4096

/-- Everything that was written. -/
def total (f : Flow) : Nat := f.gathered + f.held + f.stored

/-- Hands over what is gathered. What does not fit to the bytes that are held back sends those into
the file first. -/
def handOver (f : Flow) : Flow :=
  if f.held + f.gathered ≤ holdLimit then
    { gathered := 0, held := f.held + f.gathered, stored := f.stored }
  else if f.gathered ≤ holdLimit then
    { gathered := 0, held := f.gathered, stored := f.stored + f.held }
  else { gathered := 0, held := 0, stored := f.stored + f.held + f.gathered }

/-- Writes a text of the given size. What is gathered is handed over before a text that would lead
beyond the limit, and together with one that reaches it. -/
def write (size : Nat) (f : Flow) : Flow :=
  let f := if gatherLimit < f.gathered + size then f.handOver else f
  let f := { f with gathered := f.gathered + size }
  if gatherLimit ≤ f.gathered then f.handOver else f

@[simp] theorem total_handOver (f : Flow) : f.handOver.total = f.total := by
  unfold handOver total
  split
  · simp; omega
  · split <;> simp <;> omega

theorem stored_le_stored_handOver (f : Flow) : f.stored ≤ f.handOver.stored := by
  unfold handOver
  split
  · exact Nat.le_refl _
  · split
    · simp
    · simp; omega

/-- Writing adds the size of the text to what was written. -/
@[simp] theorem total_write (size : Nat) (f : Flow) : (f.write size).total = f.total + size := by
  have gather (g : Flow) : ({ g with gathered := g.gathered + size } : Flow).total =
      g.total + size := by
    simp only [total]
    omega
  unfold write
  dsimp only
  split <;> split <;> simp [gather]

/-- What has reached the file stays there. -/
theorem stored_le_stored_write (size : Nat) (f : Flow) : f.stored ≤ (f.write size).stored := by
  have hfirst : f.stored ≤ (if gatherLimit < f.gathered + size then f.handOver else f).stored := by
    split
    · exact stored_le_stored_handOver f
    · exact Nat.le_refl _
  unfold write
  dsimp only
  generalize (if gatherLimit < f.gathered + size then f.handOver else f) = g at hfirst ⊢
  split
  · exact Nat.le_trans hfirst (stored_le_stored_handOver { g with gathered := g.gathered + size })
  · exact hfirst

end Flow

end InsertScript
