import Assessment.Property.Folding
import Assessment.Text.Lowercase

/-!
# Changes of case

The characters that change when a text is written in other letters.
-/

namespace Assessment.Property

open Text

/-- What changes in small letters. -/
def lowercasedRanges : CodeRanges :=
  (0x130, 0x130) :: lowercaseRuns.flatMap fun run => run.codes.map fun c => (c, c)

/-- What changes in capitals without being the small letter of one. -/
def unpairedUppercasedRanges : CodeRanges :=
  [(0xB5, 0xB5), (0x131, 0x131), (0x149, 0x149), (0x17F, 0x17F), (0x1C5, 0x1C5), (0x1C8, 0x1C8),
    (0x1CB, 0x1CB), (0x1F0, 0x1F0), (0x1F2, 0x1F2), (0x345, 0x345), (0x390, 0x390),
    (0x3B0, 0x3B0), (0x3C2, 0x3C2), (0x3D0, 0x3D1), (0x3D5, 0x3D6), (0x3F0, 0x3F1),
    (0x3F5, 0x3F5), (0x587, 0x587), (0x1C80, 0x1C88), (0x1E96, 0x1E9B), (0x1F50, 0x1F50),
    (0x1F52, 0x1F52), (0x1F54, 0x1F54), (0x1F56, 0x1F56), (0x1F88, 0x1F8F), (0x1F98, 0x1F9F),
    (0x1FA8, 0x1FAF), (0x1FB2, 0x1FB2), (0x1FB4, 0x1FB4), (0x1FB6, 0x1FB7), (0x1FBC, 0x1FBC),
    (0x1FBE, 0x1FBE), (0x1FC2, 0x1FC2), (0x1FC4, 0x1FC4), (0x1FC6, 0x1FC7), (0x1FCC, 0x1FCC),
    (0x1FD2, 0x1FD3), (0x1FD6, 0x1FD7), (0x1FE2, 0x1FE4), (0x1FE6, 0x1FE7), (0x1FF2, 0x1FF2),
    (0x1FF4, 0x1FF4), (0x1FF6, 0x1FF7), (0x1FFC, 0x1FFC), (0xFB00, 0xFB06), (0xFB13, 0xFB17)]

/-- What changes in capitals. -/
def uppercasedRanges : CodeRanges :=
  unpairedUppercasedRanges ++ lowercaseRuns.flatMap fun run =>
    run.codes.map fun c => (run.target c, run.target c)

/-- What changes at the beginning of a title, but not in capitals. -/
def titlecasedOnlyRanges : CodeRanges :=
  [(0x1C4, 0x1C4), (0x1C7, 0x1C7), (0x1CA, 0x1CA), (0x1F1, 0x1F1)]

/-- What changes in capitals, but not at the beginning of a title. -/
def uppercasedOnlyRanges : CodeRanges :=
  [(0x1C5, 0x1C5), (0x1C8, 0x1C8), (0x1CB, 0x1CB), (0x1F2, 0x1F2), (0x10D0, 0x10FA),
    (0x10FD, 0x10FF), (0x1F88, 0x1F8F), (0x1F98, 0x1F9F), (0x1FA8, 0x1FAF), (0x1FBC, 0x1FBC),
    (0x1FCC, 0x1FCC), (0x1FFC, 0x1FFC)]

/-- What becomes several characters when case is folded, or one that is no variant of it. -/
def longFoldedRanges : CodeRanges :=
  [(0xDF, 0xDF), (0x130, 0x130), (0x149, 0x149), (0x587, 0x587), (0x1E9A, 0x1E9A),
    (0x1F80, 0x1F87), (0x1F90, 0x1F97), (0x1FA0, 0x1FA7), (0x1FB2, 0x1FB4), (0x1FB7, 0x1FB7),
    (0x1FC2, 0x1FC4), (0x1FC7, 0x1FC7), (0x1FF2, 0x1FF4), (0x1FF7, 0x1FF7), (0xFB00, 0xFB04),
    (0xFB06, 0xFB06), (0xFB13, 0xFB17)]

/-- What has case variants, but the same parts as one of them. -/
def unfoldedRanges : CodeRanges :=
  [(0x1FBE, 0x1FBE), (0x1FD3, 0x1FD3), (0x1FE3, 0x1FE3)]

/-- What has another character to stand for all its case variants. -/
def foldedRanges : CodeRanges :=
  longFoldedRanges ++ foldingRuns.flatMap fun run => run.codes.map fun c => (c, c)

end Assessment.Property
