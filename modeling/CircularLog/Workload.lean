import CircularLog.Text.Utf8

namespace CircularLog.Workload

-- A line of so many bytes, at least its newline. It runs through the small letters, and the line
-- with number `index` starts so many letters later.
def line (size index : Nat) : Bytes :=
  (List.range (size - 1)).map (fun place => UInt8.ofNat ('a'.toNat + (index + place) % 26)) ++ [10]

def lines (count size : Nat) : List Bytes :=
  (List.range count).map (line size)

end CircularLog.Workload
