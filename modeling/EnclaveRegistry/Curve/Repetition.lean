/-! # Repeated operations

Powers of a number and multiples of a point come from the same scheme: halve the count, double the
result, and apply the operation once more for an odd count.
-/
namespace EnclaveRegistry.Curve

/-- `count` copies of `x` under `op`, for a count below `2 ^ bits`. -/
def repetition {α : Type} (op : α → α → α) (neutral x : α) : (bits count : Nat) → α
  | 0, _ => neutral
  | bits + 1, count =>
    let half := repetition op neutral x bits (count / 2)
    let twice := op half half
    if count % 2 = 1 then op twice x else twice

end EnclaveRegistry.Curve
