namespace TaskSynth.Decimal

/-- The number of words of 63 bits: one more than the greatest signed word. -/
def signedLimit : Nat := 0x8000000000000000

/-- The number of words of 64 bits: one more than the greatest unsigned word. -/
def unsignedLimit : Nat := 0x10000000000000000

def fitsSigned (n : Int) : Bool := -(signedLimit : Int) ≤ n && n < signedLimit

def fitsUnsigned (n : Int) : Bool := 0 ≤ n && n < unsignedLimit

end TaskSynth.Decimal
