/-! The name and the version of the program, as it tells them. -/

namespace Barrage.Program

def name : String := "loadrig"

def version : String := "0.1.0"

end Barrage.Program
