/-!
# The frame of a page

Everything on a page that does not depend on what it shows: the head with its external style sheet
and scripts, the colors of the body, and the blank lines around the contents.
-/
namespace ResumePress.Page

def preamble : String :=
  "<!DOCTYPE html5><html><head>" ++
    "<meta content=\"text/html;charset=utf-8\" http-equiv=\"Content-Type\">" ++
    "<meta content=\"utf-8\" http-equiv=\"encoding\">"

def sheetReference : String :=
  "<link rel=\"stylesheet\" href=\"https://stackpath.bootstrapcdn.com/bootstrap/4.3.1/css/bootstrap.min.css\" integrity=\"sha384-ggOyR0iXCbMQv3Xipma34MD+dH/1fQ784/j6cY/iJTQUOhcWr7x9JvoRxT2MZw1T\" crossorigin=\"anonymous\">"

def scripts : String :=
  "<script src=\"https://code.jquery.com/jquery-3.3.1.slim.min.js\" integrity=\"sha384-q8i/X+965DzO0rT7abK41JStQIAqVgRVzpbzo5smXKp4YfRvH+8abtTE1Pi6jizo\" crossorigin=\"anonymous\"></script>" ++
    "<script src=\"https://cdnjs.cloudflare.com/ajax/libs/popper.js/1.14.7/umd/popper.min.js\" integrity=\"sha384-UO2eT0CpHqdSJQ6hJty5KVphtPhzWj9WO1clHTMGa3JDZwrnQq4sF86dIHNDz0W1\" crossorigin=\"anonymous\"></script>" ++
    "<script src=\"https://stackpath.bootstrapcdn.com/bootstrap/4.3.1/js/bootstrap.min.js\" integrity=\"sha384-JjSmVgyd0p3pXB1rRibZUAYoIIy6OrQ6VrjIEaFf/nJGzIxFDsf4x0xIM+B07jRM\" crossorigin=\"anonymous\"></script>"

/-- The style of a page: the theme's sheet and the two colors of the body. -/
def style (css foreground background : String) : String :=
  "<style>" ++ css ++ "\nbody, div \x7b color: " ++ foreground ++ "; background-color: " ++
    background ++ "; \x7d</style>"

def blankLines : String := "<br><br><br><br><br><br>"

def frame (css foreground background contents : String) : String :=
  preamble ++ sheetReference ++ scripts ++ style css foreground background ++ "</head><body>" ++
    blankLines ++ contents ++ blankLines ++ "</body></html>"

end ResumePress.Page
