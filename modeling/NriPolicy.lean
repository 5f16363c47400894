import NriPolicy.Go
import NriPolicy.Glob
import NriPolicy.Api
import NriPolicy.Restrictions
import NriPolicy.Policy
import NriPolicy.Interleaving
import NriPolicy.Config
import NriPolicy.Filepath
import NriPolicy.Loader
import NriPolicy.Manager
import NriPolicy.Plugin
import NriPolicy.Cgroup
