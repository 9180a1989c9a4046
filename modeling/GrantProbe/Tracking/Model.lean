import GrantProbe.Error
import GrantProbe.Text.Utf8

/-!
# Artifacts and linear models

What the cases upload and read back. The trained model is a least-squares line, so a loaded model can be
checked by what it predicts.

* `Artifact`: a named blob; `Artifact.sample` is the one that cases prepare;
* `LinearModel`, `LinearModel.fit`, `LinearModel.reference`, `LinearModel.predict`.
-/

namespace GrantProbe

/-- **A blob** to upload as a run's artifact. Its name is its path below the run's root. -/
structure Artifact where
  name : String
  content : Bytes
  deriving DecidableEq, Repr, Inhabited

/-- The text artifact that cases prepare, with a fresh name. -/
def Artifact.sample (suffix : String) : Artifact :=
  ⟨"artifact-" ++ suffix ++ ".txt", utf8Bytes "test artifact content"⟩

/-- The file name of a stored model below its root. -/
def modelFile : String := "model.json"

/-- The name given to logged models. -/
def loggedModelName : String := "model"

/-- **A line** `y = slope · x + intercept`. -/
structure LinearModel where
  slope : Float
  intercept : Float
  deriving Repr, Inhabited

namespace LinearModel

/-- The sum of floats, from left to right. -/
def sum (xs : List Float) : Float := xs.foldl (· + ·) (-0.0)

/-- **The least-squares line** through points. It needs two points at least, and two different `x`. -/
def fit (xs ys : List Float) : Except Error LinearModel :=
  if xs.length ≠ ys.length then
    .error (.invalidInput ("cannot fit " ++ toString xs.length ++ " inputs to " ++
      toString ys.length ++ " targets"))
  else if xs.length < 2 then .error (.invalidInput "need at least two points to fit a line")
  else
    let n := (UInt64.ofNat xs.length).toFloat
    let meanX := sum xs / n
    let meanY := sum ys / n
    let covariance := (xs.zip ys).foldl (fun s p => s + (p.1 - meanX) * (p.2 - meanY)) 0.0
    let variance := xs.foldl (fun s x => s + (x - meanX) * (x - meanX)) 0.0
    if variance == 0.0 then .error (.invalidInput "inputs have no variance")
    else
      let slope := covariance / variance
      .ok ⟨slope, meanY - slope * meanX⟩

/-- The model that the cases train: the line `y = 2 x + 1`, through three of its points. -/
def reference : Except Error LinearModel := fit [1.0, 2.0, 3.0] [3.0, 5.0, 7.0]

/-- The predicted `y`. -/
def predict (m : LinearModel) (x : Float) : Float := m.slope * x + m.intercept

end LinearModel

end GrantProbe
