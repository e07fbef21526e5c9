import Admissions.Cli.Shell.Template

namespace Admissions

namespace Cli

namespace ShellScript

def bashTemplate : String := "# bash completion V2 for %-36[1]s -*- shell-script -*-

__%[1]s_debug()
\x7b
    if [[ -n $\x7bBASH_COMP_DEBUG_FILE-\x7d ]]; then
        echo \"$*\" >> \"$\x7bBASH_COMP_DEBUG_FILE\x7d\"
    fi
\x7d

# Macs have bash3 for which the bash-completion package doesn't include
# _init_completion. This is a minimal version of that function.
__%[1]s_init_completion()
\x7b
    COMPREPLY=()
    _get_comp_words_by_ref \"$@\" cur prev words cword
\x7d

# This function calls the %[1]s program to obtain the completion
# results and the directive.  It fills the 'out' and 'directive' vars.
__%[1]s_get_completion_results() \x7b
    local requestComp lastParam lastChar args

    # Prepare the command to request completions for the program.
    # Calling $\x7bwords[0]\x7d instead of directly %[1]s allows handling aliases
    args=(\"$\x7bwords[@]:1\x7d\")
    requestComp=\"$\x7bwords[0]\x7d %[2]s $\x7bargs[*]\x7d\"

    lastParam=$\x7bwords[$(($\x7b#words[@]\x7d-1))]\x7d
    lastChar=$\x7blastParam:$(($\x7b#lastParam\x7d-1)):1\x7d
    __%[1]s_debug \"lastParam $\x7blastParam\x7d, lastChar $\x7blastChar\x7d\"

    if [[ -z $\x7bcur\x7d && $\x7blastChar\x7d != = ]]; then
        # If the last parameter is complete (there is a space following it)
        # We add an extra empty parameter so we can indicate this to the go method.
        __%[1]s_debug \"Adding extra empty parameter\"
        requestComp=\"$\x7brequestComp\x7d ''\"
    fi

    # When completing a flag with an = (e.g., %[1]s -n=<TAB>)
    # bash focuses on the part after the =, so we need to remove
    # the flag part from $cur
    if [[ $\x7bcur\x7d == -*=* ]]; then
        cur=\"$\x7bcur#*=\x7d\"
    fi

    __%[1]s_debug \"Calling $\x7brequestComp\x7d\"
    # Use eval to handle any environment variables and such
    out=$(eval \"$\x7brequestComp\x7d\" 2>/dev/null)

    # Extract the directive integer at the very end of the output following a colon (:)
    directive=$\x7bout##*:\x7d
    # Remove the directive
    out=$\x7bout%:*\x7d
    if [[ $\x7bdirective\x7d == \"$\x7bout\x7d\" ]]; then
        # There is not directive specified
        directive=0
    fi
    __%[1]s_debug \"The completion directive is: $\x7bdirective\x7d\"
    __%[1]s_debug \"The completions are: $\x7bout\x7d\"
\x7d

__%[1]s_process_completion_results() \x7b
    local shellCompDirectiveError=1
    local shellCompDirectiveNoSpace=2
    local shellCompDirectiveNoFileComp=4
    local shellCompDirectiveFilterFileExt=8
    local shellCompDirectiveFilterDirs=16
    local shellCompDirectiveKeepOrder=32

    if (((directive & shellCompDirectiveError) != 0)); then
        # Error code.  No completion.
        __%[1]s_debug \"Received error from custom completion go code\"
        return
    else
        if (((directive & shellCompDirectiveNoSpace) != 0)); then
            if [[ $(type -t compopt) == builtin ]]; then
                __%[1]s_debug \"Activating no space\"
                compopt -o nospace
            else
                __%[1]s_debug \"No space directive not supported in this version of bash\"
            fi
        fi
        if (((directive & shellCompDirectiveKeepOrder) != 0)); then
            if [[ $(type -t compopt) == builtin ]]; then
                # no sort isn't supported for bash less than < 4.4
                if [[ $\x7bBASH_VERSINFO[0]\x7d -lt 4 || ( $\x7bBASH_VERSINFO[0]\x7d -eq 4 && $\x7bBASH_VERSINFO[1]\x7d -lt 4 ) ]]; then
                    __%[1]s_debug \"No sort directive not supported in this version of bash\"
                else
                    __%[1]s_debug \"Activating keep order\"
                    compopt -o nosort
                fi
            else
                __%[1]s_debug \"No sort directive not supported in this version of bash\"
            fi
        fi
        if (((directive & shellCompDirectiveNoFileComp) != 0)); then
            if [[ $(type -t compopt) == builtin ]]; then
                __%[1]s_debug \"Activating no file completion\"
                compopt +o default
            else
                __%[1]s_debug \"No file completion directive not supported in this version of bash\"
            fi
        fi
    fi

    # Separate activeHelp from normal completions
    local completions=()
    local activeHelp=()
    __%[1]s_extract_activeHelp

    if (((directive & shellCompDirectiveFilterFileExt) != 0)); then
        # File extension filtering
        local fullFilter filter filteringCmd

        # Do not use quotes around the $completions variable or else newline
        # characters will be kept.
        for filter in $\x7bcompletions[*]\x7d; do
            fullFilter+=\"$filter|\"
        done

        filteringCmd=\"_filedir $fullFilter\"
        __%[1]s_debug \"File filtering command: $filteringCmd\"
        $filteringCmd
    elif (((directive & shellCompDirectiveFilterDirs) != 0)); then
        # File completion for directories only

        local subdir
        subdir=$\x7bcompletions[0]\x7d
        if [[ -n $subdir ]]; then
            __%[1]s_debug \"Listing directories in $subdir\"
            pushd \"$subdir\" >/dev/null 2>&1 && _filedir -d && popd >/dev/null 2>&1 || return
        else
            __%[1]s_debug \"Listing directories in .\"
            _filedir -d
        fi
    else
        __%[1]s_handle_completion_types
    fi

    __%[1]s_handle_special_char \"$cur\" :
    __%[1]s_handle_special_char \"$cur\" =

    # Print the activeHelp statements before we finish
    if (($\x7b#activeHelp[*]\x7d != 0)); then
        printf \"\\n\";
        printf \"%s\\n\" \"$\x7bactiveHelp[@]\x7d\"
        printf \"\\n\"

        # The prompt format is only available from bash 4.4.
        # We test if it is available before using it.
        if (x=$\x7bPS1@P\x7d) 2> /dev/null; then
            printf \"%s\" \"$\x7bPS1@P\x7d$\x7bCOMP_LINE[@]\x7d\"
        else
            # Can't print the prompt.  Just print the
            # text the user had typed, it is workable enough.
            printf \"%s\" \"$\x7bCOMP_LINE[@]\x7d\"
        fi
    fi
\x7d

# Separate activeHelp lines from real completions.
# Fills the $activeHelp and $completions arrays.
__%[1]s_extract_activeHelp() \x7b
    local activeHelpMarker=\"_activeHelp_ \"
    local endIndex=$\x7b#activeHelpMarker\x7d

    while IFS='' read -r comp; do
        if [[ $\x7bcomp:0:endIndex\x7d == $activeHelpMarker ]]; then
            comp=$\x7bcomp:endIndex\x7d
            __%[1]s_debug \"ActiveHelp found: $comp\"
            if [[ -n $comp ]]; then
                activeHelp+=(\"$comp\")
            fi
        else
            # Not an activeHelp line but a normal completion
            completions+=(\"$comp\")
        fi
    done <<<\"$\x7bout\x7d\"
\x7d

__%[1]s_handle_completion_types() \x7b
    __%[1]s_debug \"__%[1]s_handle_completion_types: COMP_TYPE is $COMP_TYPE\"

    case $COMP_TYPE in
    37|42)
        # Type: menu-complete/menu-complete-backward and insert-completions
        # If the user requested inserting one completion at a time, or all
        # completions at once on the command-line we must remove the descriptions.
        # https://github.com/spf13/cobra/issues/1508
        local tab=$'\\t' comp
        while IFS='' read -r comp; do
            [[ -z $comp ]] && continue
            # Strip any description
            comp=$\x7bcomp%%$tab*\x7d
            # Only consider the completions that match
            if [[ $comp == \"$cur\"* ]]; then
                COMPREPLY+=(\"$comp\")
            fi
        done < <(printf \"%s\\n\" \"$\x7bcompletions[@]\x7d\")
        ;;

    *)
        # Type: complete (normal completion)
        __%[1]s_handle_standard_completion_case
        ;;
    esac
\x7d

__%[1]s_handle_standard_completion_case() \x7b
    local tab=$'\\t' comp

    # Short circuit to optimize if we don't have descriptions
    if [[ \"$\x7bcompletions[*]\x7d\" != *$tab* ]]; then
        IFS=$'\\n' read -ra COMPREPLY -d '' < <(compgen -W \"$\x7bcompletions[*]\x7d\" -- \"$cur\")
        return 0
    fi

    local longest=0
    local compline
    # Look for the longest completion so that we can format things nicely
    while IFS='' read -r compline; do
        [[ -z $compline ]] && continue
        # Strip any description before checking the length
        comp=$\x7bcompline%%$tab*\x7d
        # Only consider the completions that match
        [[ $comp == \"$cur\"* ]] || continue
        COMPREPLY+=(\"$compline\")
        if (($\x7b#comp\x7d>longest)); then
            longest=$\x7b#comp\x7d
        fi
    done < <(printf \"%s\\n\" \"$\x7bcompletions[@]\x7d\")

    # If there is a single completion left, remove the description text
    if (($\x7b#COMPREPLY[*]\x7d == 1)); then
        __%[1]s_debug \"COMPREPLY[0]: $\x7bCOMPREPLY[0]\x7d\"
        comp=\"$\x7bCOMPREPLY[0]%%$tab*\x7d\"
        __%[1]s_debug \"Removed description from single completion, which is now: $\x7bcomp\x7d\"
        COMPREPLY[0]=$comp
    else # Format the descriptions
        __%[1]s_format_comp_descriptions $longest
    fi
\x7d

__%[1]s_handle_special_char()
\x7b
    local comp=\"$1\"
    local char=$2
    if [[ \"$comp\" == *$\x7bchar\x7d* && \"$COMP_WORDBREAKS\" == *$\x7bchar\x7d* ]]; then
        local word=$\x7bcomp%\"$\x7bcomp##*$\x7bchar\x7d\x7d\"\x7d
        local idx=$\x7b#COMPREPLY[*]\x7d
        while ((--idx >= 0)); do
            COMPREPLY[idx]=$\x7bCOMPREPLY[idx]#\"$word\"\x7d
        done
    fi
\x7d

__%[1]s_format_comp_descriptions()
\x7b
    local tab=$'\\t'
    local comp desc maxdesclength
    local longest=$1

    local i ci
    for ci in $\x7b!COMPREPLY[*]\x7d; do
        comp=$\x7bCOMPREPLY[ci]\x7d
        # Properly format the description string which follows a tab character if there is one
        if [[ \"$comp\" == *$tab* ]]; then
            __%[1]s_debug \"Original comp: $comp\"
            desc=$\x7bcomp#*$tab\x7d
            comp=$\x7bcomp%%$tab*\x7d

            # $COLUMNS stores the current shell width.
            # Remove an extra 4 because we add 2 spaces and 2 parentheses.
            maxdesclength=$(( COLUMNS - longest - 4 ))

            # Make sure we can fit a description of at least 8 characters
            # if we are to align the descriptions.
            if ((maxdesclength > 8)); then
                # Add the proper number of spaces to align the descriptions
                for ((i = $\x7b#comp\x7d ; i < longest ; i++)); do
                    comp+=\" \"
                done
            else
                # Don't pad the descriptions so we can fit more text after the completion
                maxdesclength=$(( COLUMNS - $\x7b#comp\x7d - 4 ))
            fi

            # If there is enough space for any description text,
            # truncate the descriptions that are too long for the shell width
            if ((maxdesclength > 0)); then
                if (($\x7b#desc\x7d > maxdesclength)); then
                    desc=$\x7bdesc:0:$(( maxdesclength - 1 ))\x7d
                    desc+=\"…\"
                fi
                comp+=\"  ($desc)\"
            fi
            COMPREPLY[ci]=$comp
            __%[1]s_debug \"Final comp: $comp\"
        fi
    done
\x7d

__start_%[1]s()
\x7b
    local cur prev words cword split

    COMPREPLY=()

    # Call _init_completion from the bash-completion package
    # to prepare the arguments properly
    if declare -F _init_completion >/dev/null 2>&1; then
        _init_completion -n =: || return
    else
        __%[1]s_init_completion -n =: || return
    fi

    __%[1]s_debug
    __%[1]s_debug \"========= starting completion logic ==========\"
    __%[1]s_debug \"cur is $\x7bcur\x7d, words[*] is $\x7bwords[*]\x7d, #words[@] is $\x7b#words[@]\x7d, cword is $cword\"

    # The user could have moved the cursor backwards on the command-line.
    # We need to trigger completion from the $cword location, so we need
    # to truncate the command-line ($words) up to the $cword location.
    words=(\"$\x7bwords[@]:0:$cword+1\x7d\")
    __%[1]s_debug \"Truncated words[*]: $\x7bwords[*]\x7d,\"

    local out directive
    __%[1]s_get_completion_results
    __%[1]s_process_completion_results
\x7d

if [[ $(type -t compopt) = \"builtin\" ]]; then
    complete -o default -F __start_%[1]s %[1]s
else
    complete -o default -o nospace -F __start_%[1]s %[1]s
fi

# ex: ts=4 sw=4 et filetype=sh
"

def bash (name request : String) : String := fill bashTemplate name request

end ShellScript

end Cli

end Admissions
