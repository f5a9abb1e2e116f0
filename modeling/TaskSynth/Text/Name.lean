namespace TaskSynth.Text

/-- ASCII letters and digits, underscores and hyphens. -/
def isNameChar (c : Char) : Bool := c.isAlphanum || c == '_' || c == '-'

end TaskSynth.Text
