import SignalDesk.Json.Reader

namespace SignalDesk

namespace Text

theorem toList_loop (bytes : ByteArray) (i : Nat) (done : List UInt8) :
    ByteArray.toList.loop bytes i done = done.reverse ++ bytes.data.toList.drop i := by
  induction i, done using ByteArray.toList.loop.induct bytes with
  | case1 i done inside ih =>
    have bound : i < bytes.data.toList.length := inside
    have byte : bytes.get! i = bytes.data.toList[i] := by
      rw [ByteArray.get!, Array.getElem_toList]
      exact getElem!_pos bytes.data i inside
    rw [ByteArray.toList.loop, if_pos inside, ih, List.drop_eq_getElem_cons bound, byte]
    simp
  | case2 i done past =>
    have bound : bytes.data.toList.length ≤ i := Nat.not_lt.mp past
    rw [ByteArray.toList.loop, if_neg past, List.drop_eq_nil_of_le bound, List.append_nil]

/-- The bytes of a text are those of its characters. -/
theorem utf8_ofList (cs : List Char) :
    utf8 (String.ofList cs) = cs.flatMap String.utf8EncodeChar := by
  change ByteArray.toList.loop _ 0 [] = _
  rw [toList_loop]
  simp [List.utf8Encode]

end Text

namespace Json

/-- A list that opens once more than it may is too deep. Each time it opens takes two calls. -/
theorem readValue_nested {depth : Nat} (rest : List Point) : ∀ fuel n : Nat, 2 * depth < fuel →
    depth < n →
      readValue fuel depth (List.replicate n (.char '[') ++ rest) = .error (.tooDeep false) := by
  induction depth with
  | zero =>
    intro fuel n calls deep
    obtain ⟨fuel, rfl⟩ := Nat.exists_eq_succ_of_ne_zero (Nat.ne_of_gt calls)
    obtain ⟨n, rfl⟩ := Nat.exists_eq_add_one_of_ne_zero (Nat.ne_zero_of_lt deep)
    rfl
  | succ depth ih =>
    intro fuel n calls deep
    obtain ⟨fuel, rfl⟩ : ∃ k, fuel = k + 2 := ⟨fuel - 2, by omega⟩
    obtain ⟨n, rfl⟩ : ∃ k, n = k + 2 := ⟨n - 2, by omega⟩
    have inner := ih fuel (n + 1) (by omega) (by omega)
    have first : readItems (fuel + 1) depth [] (List.replicate (n + 1) (.char '[') ++ rest) =
        .error (.tooDeep false) := by
      rw [readItems, inner]
    exact first

theorem readPoints_nested {n : Nat} (deep : maxDepth < n) (rest : List Point) :
    readPoints (List.replicate n (.char '[') ++ rest) = .error (.tooDeep false) := by
  obtain ⟨n, rfl⟩ := Nat.exists_eq_add_one_of_ne_zero (Nat.ne_zero_of_lt deep)
  let ps := List.replicate (n + 1) (Point.char '[') ++ rest
  have calls : 2 * maxDepth < 2 * ps.length + 2 := by
    simp only [ps, List.length_append, List.length_replicate]
    omega
  have opens : skipSpace ps = ps := rfl
  have deeper : readValue (2 * ps.length + 2) maxDepth ps = .error (.tooDeep false) :=
    readValue_nested rest _ _ calls deep
  change readPoints ps = _
  rw [readPoints, opens, deeper]

/-- A body in bytes without a mark in front is read by its characters. -/
theorem readBody_ofList {cs : List Char}
    (bytes : Text.Encoding.ofBytes (cs.flatMap String.utf8EncodeChar) = .bytes)
    (unmarked : cs.head? ≠ some '\ufeff') :
    readBody (String.ofList cs) = readPoints (cs.map .char) := by
  unfold readBody
  split
  · rename_i marked
    rw [String.toList_ofList] at marked
    exact absurd (congrArg List.head? marked) unmarked
  · simp only [Text.decoded?, Text.utf8_ofList, bytes, String.toList_ofList]

theorem readBody_nested {n : Nat} (deep : maxDepth < n) (rest : List Char) :
    readBody (String.ofList (List.replicate n '[' ++ rest)) = .error (.tooDeep false) := by
  have most : 990 < n := deep
  -- The first four bytes tell the encoding.
  obtain ⟨n, rfl⟩ : ∃ k, n = k + 4 := ⟨n - 4, by omega⟩
  rw [readBody_ofList rfl (by rintro ⟨⟩), List.map_append, List.map_replicate]
  exact readPoints_nested deep (rest.map .char)

end Json
end SignalDesk
