import Logit.Dispatch
import Logit.Basic
import Logit.Strconv
import Logit.Float
import Logit.Time
import Logit.Config
import Logit.Filepath
import Logit.Handler
import Logit.Attrs
import Logit.Logger
import Logit.Files
import Logit.Resources
import Logit.Options
import Logit.Logging
import Logit.Wrapping
