/-!
What the product ships with: its name, the fields a host starts with, limits, window sizes and
fonts.
-/

namespace FieldCalc

structure Font where
  family : String
  size : Nat
  bold : Bool
  deriving DecidableEq, Repr

structure Endpoint where
  host : String
  number : Int
  deriving DecidableEq, Repr

namespace Product

def name : String := "RideCalc Field Calculator"

def shortName : String := "RideCalc"

def version : String := "1.0.0"

/-! ## Fields and sessions -/

def places : Nat := 2

def fields : List (String × String × Nat) := [
  ("start_mileage", "Start Mileage", 1),
  ("end_mileage", "End Mileage", 1),
  ("gas_price", "Gas Price", 3),
  ("gross_earnings", "Gross Earnings", 2),
  ("tips", "Tips", 2),
  ("tolls", "Tolls", 2)]

def idleSeconds : Nat := 1800

def capacity : Nat := 100

/-! ## Windows -/

def windowWidth : Nat := 420

def windowHeight : Nat := 620

def popupWidth : Nat := 360

def popupHeight : Nat := 560

def displayFont : Font := ⟨"Consolas", 24, true⟩

def tapeFont : Font := ⟨"Consolas", 10, false⟩

def buttonFont : Font := ⟨"Segoe UI", 12, false⟩

def labelFont : Font := ⟨"Segoe UI", 11, false⟩

def syncPeriod : Nat := 1000

def toastTime : Nat := 2500

def flashTime : Nat := 80

def geometry (width height : Nat) : String := s!"{width}x{height}"

/-! ## Network -/

def anyHost : String := "0.0.0.0"

def endpoint : Endpoint := ⟨anyHost, 8888⟩

def logFormat : String := "%(asctime)s %(levelname)s %(name)s: %(message)s"

end Product

end FieldCalc
